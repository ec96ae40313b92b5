import JsonPath.Value.Basic
import JsonPath.Text.Quoted
import JsonPath.Pattern.Reader
import JsonPath.Syntax.Span

/-!
# Functions of filter expressions

A function extension has a name, a signature and a way to compute its result. A signature
gives the type of each parameter and of the result, one of three: a value (possibly
absent), a logical value, or a list of nodes. What a function receives and returns is an
`Argument` of one of these types.

A registry holds functions under distinct names, in the order they were registered. A
registry may be frozen; after that nothing can be registered in it. A name must be a
lower-case ASCII letter followed by lower-case letters, digits and underscores.
Registration checks, in this order, that the registry is open, that the name is valid
and that it is new.
-/

set_option autoImplicit false

namespace JsonPath

/-- The type of an expression, a function parameter or a function result. -/
inductive ExprType where
  | value
  | logical
  | nodes
deriving DecidableEq, Repr, Inhabited

namespace ExprType

/-- How a type is named in messages and listings. -/
def name : ExprType → String
  | .value => "ValueType"
  | .logical => "LogicalType"
  | .nodes => "NodesType"

end ExprType

/-- What a function receives for a parameter, or returns. -/
inductive Argument where
  /-- A value, or `none` when there is none (a singular query that selected nothing). -/
  | value (v : Option Value)
  /-- A logical value. -/
  | logical (b : Bool)
  /-- The values of a list of nodes. -/
  | nodes (vs : List Value)
deriving Repr, Inhabited

/-- The parameter types and result type of a function. -/
structure Signature where
  params : List ExprType
  result : ExprType
deriving DecidableEq, Repr

namespace Signature

/-- A signature as `(ValueType, NodesType) -> LogicalType`. -/
def describe (s : Signature) : String :=
  "(" ++ ", ".intercalate (s.params.map ExprType.name) ++ ") -> " ++ s.result.name

end Signature

/-- Why a function call failed. -/
inductive CallFailure where
  /-- The function refused its arguments, with a message for the author of the query. -/
  | message (text : String)
  /-- The function refused its arguments with an error that already points at a span: its
  message, the text the span is of, if it names one, and the expression it concerns, if any. -/
  | raised (text : String) (source : Option String) (span : Span) (expression : Option String)
  /-- A pattern given to the function goes beyond what patterns may ask for. -/
  | pattern (fault : Pattern.Fault)
deriving Repr

/-- A function of filter expressions: its name, signature and how it computes its result
from its arguments, or fails. -/
structure FunctionDef where
  name : String
  signature : Signature
  apply : List Argument → Except CallFailure Argument

namespace FunctionDef

/-- A function as `name(ValueType) -> LogicalType`. -/
def describe (f : FunctionDef) : String := f.name ++ f.signature.describe

end FunctionDef

/-- Why a function could not be registered. -/
inductive RegistrationError where
  | frozen (name : String)
  | invalidName (name : String)
  | duplicate (name : String)
deriving DecidableEq, Repr

namespace RegistrationError

/-- The message of a registration error. -/
def message : RegistrationError → String
  | .frozen n => s!"Cannot register {n}: registry is frozen"
  | .invalidName n => "Invalid function name: " ++ Text.quote n
  | .duplicate n => s!"Function already registered: {n}"

end RegistrationError

/-- A set of functions under distinct names, in registration order, open or frozen. -/
structure Registry where
  functions : List FunctionDef
  frozen : Bool

namespace Registry

/-- The empty open registry. -/
def empty : Registry := ⟨[], false⟩

/-- A valid function name: a lower-case ASCII letter, then lower-case letters, digits and
underscores. -/
def isValidName (name : String) : Bool :=
  match name.toList with
  | c :: rest =>
    ('a' ≤ c && c ≤ 'z') &&
      rest.all fun d => ('a' ≤ d && d ≤ 'z') || ('0' ≤ d && d ≤ '9') || d = '_'
  | [] => false

/-- Whether a function of this name is registered. -/
def contains (r : Registry) (name : String) : Bool := r.functions.any (·.name == name)

/-- The function registered under a name. -/
def get? (r : Registry) (name : String) : Option FunctionDef := r.functions.find? (·.name == name)

/-- Registers a function: refused when the registry is frozen, the name invalid or taken. -/
def register (r : Registry) (f : FunctionDef) : Except RegistrationError Registry :=
  if r.frozen then .error (.frozen f.name)
  else if !isValidName f.name then .error (.invalidName f.name)
  else if r.contains f.name then .error (.duplicate f.name)
  else .ok { r with functions := r.functions ++ [f] }

/-- The same functions, frozen. -/
def freeze (r : Registry) : Registry := { r with frozen := true }

/-- An open registry with the same functions. -/
def copy (r : Registry) : Registry := { r with frozen := false }

/-- An open registry with the same functions except those named. -/
def without (r : Registry) (names : List String) : Registry :=
  ⟨r.functions.filter fun f => !names.contains f.name, false⟩

/-- The names of the functions, sorted by code points. -/
def names (r : Registry) : List String :=
  (r.functions.map (·.name)).mergeSort fun a b => decide (a ≤ b)

/-- The registry as `FunctionRegistry(count, length; frozen)`. -/
def describe (r : Registry) : String :=
  "FunctionRegistry(" ++ ", ".intercalate r.names ++ "; " ++
    (if r.frozen then "frozen" else "open") ++ ")"

end Registry

end JsonPath
