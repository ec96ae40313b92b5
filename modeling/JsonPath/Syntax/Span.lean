/-!
# Spans

A span is a half-open range `[start, stop)` of character offsets into a query text. It
locates a token, an operand or a function call for error messages.
-/

set_option autoImplicit false

namespace JsonPath

/-- A half-open range of character offsets into a query text. -/
structure Span where
  start : Nat
  stop : Nat
deriving DecidableEq, Repr, Inhabited

namespace Span

/-- The smallest span covering both spans. -/
def merge (a b : Span) : Span := ⟨min a.start b.start, max a.stop b.stop⟩

end Span

end JsonPath
