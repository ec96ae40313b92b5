import JsonPath.Cli.Document
import JsonPath.Json.Writer
import JsonPath.Node
import JsonPath.Value.Kind

/-!
# Printing results

The nodes a query selects are printed in one of three formats, asked for by name in any
case and with blanks around it:

* `values`: a JSON array of the selected values, two spaces per level of nesting, with
  characters outside ASCII written as they are;
* `nodes`: the same for objects `{"path": ..., "value": ...}`;
* `paths`: the normalized path of each node, one a line.

Each selected value is first converted to plain data (`toJsonCompatible`), through its kind and
the accessor of that kind, element by element and member by member.

JSON has no text for infinite and NaN numbers, so a result that holds one cannot be
printed as JSON, and the command fails saying which number it met first.

With colour, a path is printed bold blue and a function's name bold green with its
signature dim white, by terminal escape sequences.
-/

set_option autoImplicit false

namespace JsonPath.Cli

/-- How results are printed. -/
inductive OutputFormat where
  | values
  | nodes
  | paths
deriving DecidableEq, Repr

/-- The name of an output format. -/
def OutputFormat.name : OutputFormat → String
  | .values => "values"
  | .nodes => "nodes"
  | .paths => "paths"

/-- The output formats, in the order a refusal lists them. -/
def OutputFormat.all : List OutputFormat := [.values, .nodes, .paths]

/-- The output format a name asks for. -/
def OutputFormat.ofName (name : String) : Except Failure OutputFormat :=
  match OutputFormat.all.find? (·.name == choiceKey name) with
  | some f => .ok f
  | none => .error (.badParameter ("Unknown output format '" ++ name ++ "'. Choose one of: " ++
      ", ".intercalate (OutputFormat.all.map OutputFormat.name)))

/-- Text between the escape sequences of a terminal style. -/
def styled (code text : String) : String := "\x1b[" ++ code ++ "m" ++ text ++ "\x1b[0m"

/-- A non-finite number as the message about it writes it. -/
def nonFiniteText (x : Binary64) : String :=
  if x.isNaN then "nan" else if x.sign then "-inf" else "inf"

/-- Why a number cannot be written as JSON text. -/
def unwritableMessage : Number → String
  | .float x => "Out of range float values are not JSON compliant: " ++ nonFiniteText x
  | .int _ => Syntax.tooManyDigitsToTextMessage

-- the equations named by the two matches serve only the termination proof
set_option linter.unusedVariables false in
/-- A value as plain data, read through its kind and the accessor of that kind; an accessor
that gives nothing stands for null, and an array or an object without its accessor is refused. -/
def toJsonCompatible (v : Value) : Except String Value :=
  match v.kind with
  | .null => .ok .null
  | .bool => .ok (v.asBool?.elim .null .bool)
  | .number => .ok (v.asNumber?.elim .null .num)
  | .string => .ok (v.asStr?.elim .null .str)
  | .array =>
    match h : v.asArray? with
    | some items => (items.attach.mapM fun w => toJsonCompatible w.1).map .arr
    | none => .error "Array value without array access"
  | .object =>
    match h : v.asObject? with
    | some members =>
      (members.attach.mapM fun m => (toJsonCompatible m.1.2).map (m.1.1, ·)).map .obj
    | none => .error "Object value without object access"
termination_by sizeOf v
decreasing_by
  all_goals
    cases v <;> simp only [Value.asArray?, Value.asObject?, reduceCtorEq, Option.some.injEq] at h
    subst h
  · have := List.sizeOf_lt_of_mem w.2
    simp only [Value.arr.sizeOf_spec]
    omega
  · obtain ⟨⟨k, w⟩, hm⟩ := m
    have := List.sizeOf_lt_of_mem hm
    simp only [Value.obj.sizeOf_spec, Prod.mk.sizeOf_spec] at this ⊢
    omega

/-- The data printed as JSON for the selected nodes: their values, or for each node an object
of its path and its value. -/
def jsonPayload (format : OutputFormat) (nodes : List Node) : Except String Value :=
  match format with
  | .nodes => (nodes.mapM fun n => (toJsonCompatible n.value).map fun v =>
      .obj [("path", .str n.location.render), ("value", v)]).map .arr
  | _ => (nodes.mapM fun n => toJsonCompatible n.value).map .arr

/-- The printed results: the lines of paths, or the JSON text and a line feed. -/
def renderResults (format : OutputFormat) (color : Bool) (nodes : List Node) :
    Except Failure String :=
  match format with
  | .paths =>
    .ok (String.join (nodes.map fun n =>
      (if color then styled "1;34" n.location.render else n.location.render) ++ "\n"))
  | _ =>
    match jsonPayload format nodes with
    | .error e => .error (.usage e)
    | .ok payload =>
      match payload.firstUnwritable? with
      | some n => .error (.usage ("Cannot render results as JSON: " ++ unwritableMessage n))
      | none => .ok (payload.toJsonText Json.Layout.pretty ++ "\n")

/-- The listing of the built-in functions, sorted by name, one a line. -/
def functionListing (color : Bool) : String :=
  let defs := Registry.builtin.functions.mergeSort fun a b => decide (a.name ≤ b.name)
  String.join (defs.map fun f =>
    (if color then styled "1;32" f.name ++ styled "2;37" f.signature.describe
     else f.describe) ++ "\n")

end JsonPath.Cli
