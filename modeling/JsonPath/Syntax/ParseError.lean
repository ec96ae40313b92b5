import JsonPath.Query.Render
import JsonPath.Syntax.Lexer
import JsonPath.Syntax.Diagnostic

/-!
# Errors of reading a query

A query text fails to read either in splitting it into tokens (`LexError`) or in reading
the tokens as a query (`ParseError`). A parse error is a token the grammar did not
expect, with what it would have accepted there, or a rule the grammar alone does not
state: nesting too deep, blanks inside `.name` or before the `(` of a call, an index out
of range, a zero slice step, or an operand of the wrong type.

Every error but one points at a span of the query text, and `QueryError.render` shows it
as a diagnostic. The exception is an integer literal too long to convert, refused by the
conversion with its own error.
-/

set_option autoImplicit false

namespace JsonPath.Syntax

/-- The greatest index magnitude: indices and slice bounds lie within `±(2^53 - 1)`. -/
def maxIndex : Int := Int.pow 2 53 - 1

/-- How deep brackets and parentheses may nest. -/
def maxNesting : Nat := 10

/-- Why a sequence of tokens is not a query. -/
inductive ParseError where
  /-- The grammar did not expect this token; it would have accepted the listed ones. -/
  | unexpected (token : Token) (expected : List String)
  /-- Brackets and parentheses nest deeper than `maxNesting` at this token. -/
  | tooDeep (span : Span)
  /-- Blanks between `.` or `..` (described) and the name or `*` after it. -/
  | blankAfter (marker : String) (span : Span)
  /-- Blanks between a function name and its `(`. -/
  | blankBeforeParen (span : Span)
  /-- The index `-0`. -/
  | negativeZero (span : Span)
  /-- An index or slice bound beyond `maxIndex`, by its text. -/
  | indexRange (text : String) (span : Span)
  /-- A slice step of zero. -/
  | zeroStep (span : Span)
  /-- A literal where a test is needed. -/
  | literalAsTest (literal : Value) (span : Span)
  /-- A call of a value-returning function where a test is needed. -/
  | valueAsTest (name : String) (span : Span)
  /-- A query that may select several nodes, compared. -/
  | nonSingular (q : Query) (span : Span)
  /-- A call of a function returning a logical value, compared. -/
  | logicalCallCompared (name : String) (span : Span)
  /-- A logical expression compared. -/
  | logicalCompared (span : Span)
  /-- A call of a function the registry does not hold; `available` lists the names it does. -/
  | unknownFunction (name : String) (available : List String) (span : Span)
  /-- A call with the wrong number of arguments. -/
  | arity (name : String) (expected got : Nat) (span : Span)
  /-- An argument, counted from one, that does not fit its parameter's type. -/
  | argumentType (position : Nat) (name : String) (param : ExprType) (span : Span)

namespace ParseError

/-- The message of a parse error. -/
def message : ParseError → String
  | .unexpected t _ => "unexpected " ++ t.describe
  | .tooDeep _ => s!"nesting exceeds the maximum depth of {maxNesting}"
  | .blankAfter m _ => "whitespace is not allowed after " ++ m
  | .blankBeforeParen _ => "whitespace is not allowed between function name and '('"
  | .negativeZero _ => "negative zero is not a valid index"
  | .indexRange text _ =>
    s!"index {text} is outside the range [{-maxIndex}, {maxIndex}]"
  | .zeroStep _ => "slice step must not be zero"
  | .literalAsTest v _ => "literal " ++ literalText v ++ " cannot be used as a test expression"
  | .valueAsTest n _ =>
    s!"function {n}() returns ValueType and cannot be used as a test expression"
  | .nonSingular q _ => "non-singular query " ++ q.render ++ " cannot be compared"
  | .logicalCallCompared n _ =>
    s!"function {n}() returns LogicalType and cannot be compared"
  | .logicalCompared _ => "logical expression cannot be compared"
  | .unknownFunction n names _ =>
    let available := if names.isEmpty then "none" else ", ".intercalate names
    s!"unknown function {n}(); available functions: {available}"
  | .arity n k m _ => s!"function {n}() expects {k} argument(s), got {m}"
  | .argumentType i n p _ => s!"argument {i} of {n}() must be of type " ++ p.name

/-- The span a parse error points at. -/
def span : ParseError → Span
  | .unexpected t _ => t.span
  | .tooDeep s | .blankAfter _ s | .blankBeforeParen s | .negativeZero s | .indexRange _ s
  | .zeroStep s | .literalAsTest _ s | .valueAsTest _ s | .nonSingular _ s
  | .logicalCallCompared _ s | .logicalCompared s | .unknownFunction _ _ s | .arity _ _ _ s
  | .argumentType _ _ _ s => s

/-- What the grammar would have accepted; empty for the rules beside the grammar. -/
def expected : ParseError → List String
  | .unexpected _ xs => xs
  | _ => []

end ParseError

/-- Why a query text could not be read. -/
inductive QueryError where
  | lex (e : LexError)
  | parse (e : ParseError)

namespace QueryError

/-- The message of the error, without its place. -/
def message : QueryError → String
  | .lex e => e.message
  | .parse e => e.message

/-- The span the error points at, if it names a place. -/
def span? : QueryError → Option Span
  | .lex e => e.span?
  | .parse e => some e.span

/-- The class the error is raised as: the language's own for a lexical or grammar error,
the conversion's for an integer literal too long to convert. -/
def kind : QueryError → String
  | .lex (.tooManyDigits _) => "ValueError"
  | .lex _ => "QueryLexError"
  | .parse _ => "QueryParseError"

/-- What the grammar would have accepted at the error. -/
def expected : QueryError → List String
  | .lex _ => []
  | .parse e => e.expected

/-- The error as a diagnostic of the query text; an error that names no place is its bare
message. -/
def render (source : String) (e : QueryError) : String :=
  match e.span? with
  | some s => Diagnostic.render source s.start s.stop e.message e.expected
  | none => e.message

end QueryError

end JsonPath.Syntax
