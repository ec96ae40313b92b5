import JsonPath.Cli.Output
import JsonPath.Query.Eval

/-!
# The commands

Three commands run over what the outside world gives them, the `Host`: its working
directory, its files and its standard input.

* `query` selects values from a document. It checks its arguments in a fixed order: the
  counts, the output format, the functions to disable, the query (a saved one by name, or
  the text itself), the document, the evaluation, and last the printing of the results.
* `parse` prints the canonical form of a query.
* `functions` lists the built-in functions.

A run writes to standard output, log lines first when logging is on, and may fail on the
way; what it wrote before failing stays written. `Run` is that: a state of the output text
with failures, over the host's own effects.
-/

set_option autoImplicit false

namespace JsonPath.Cli

/-- The outside world of a run: the working directory, what reading a file finds, the text
of standard input, and whether standard output is a terminal. -/
structure Host (m : Type → Type) where
  cwd : String
  inspect : String → m FileState
  input : m String
  stdoutIsTerminal : Bool

/-- A run of a command: the text written to standard output so far, and its outcome. -/
abbrev Run (m : Type → Type) := ExceptT Failure (StateT String m)

section
variable {m : Type → Type} [Monad m]

/-- Writes a line to standard output. -/
def say (line : String) : Run m Unit := modify (· ++ line ++ "\n")

/-- Writes text to standard output as it is. -/
def write (text : String) : Run m Unit := modify (· ++ text)

/-- Writes a log line, when logging is on. -/
def logLine (verbose : Bool) (line : String) : Run m Unit := if verbose then say line else pure ()

/-- Fails the run, or gives the value. -/
def liftResult {α : Type} : Except Failure α → Run m α
  | .ok a => pure a
  | .error f => throw f

/-- What the options of a command ask for colour: forced on or off, or on exactly when
standard output is a terminal. -/
def colorWanted (host : Host m) (flag : Option Bool) : Bool := flag.getD host.stdoutIsTerminal

/-- The text of a query given by name of a saved query or by its text, logging the choice
of a saved one. -/
def resolveQuery (verbose : Bool) (saved : List (String × String)) (query : String) :
    Run m String :=
  match saved.find? (·.1 == query) with
  | some (_, text) => do
    logLine verbose ("Using saved query " ++ query ++ ": " ++ text)
    pure text
  | none => pure query

/-- Reads and decodes a document, logging where it came from. -/
def loadDocument (host : Host m) (verbose : Bool) (file : Option String) (asked : String) :
    Run m Value := do
  let format ← liftResult (resolveFormat file asked)
  let text ← match file with
    | some path => do
      let found ← liftM (m := m) (host.inspect path)
      liftResult (fileText path found)
    | none => liftM (m := m) host.input
  let source := sourceName file
  let doc ← liftResult (decodeDocument format source text)
  logLine verbose ("Loaded " ++ format.name ++ " document from " ++ source)
  pure doc

end

/-- The arguments of the `query` command. -/
structure QueryArgs where
  query : String
  file : Option String
  config : String
  inputFormat : String
  out : String
  outTheme : String
  maxResults : Int
  maxDepth : Int
  colorFlag : Option Bool
  disableFunctions : Option (List String)
deriving Repr

/-- An optional value as a literal: `None` when absent. -/
def optionLiteral {α : Type} (lit : α → String) : Option α → String
  | some a => lit a
  | none => "None"

/-- The log line of the arguments the `query` command runs with, by name. -/
def QueryArgs.logLine (a : QueryArgs) : String :=
  let fields : List (String × String) :=
    [("color_flag", optionLiteral (fun b => if b then "True" else "False") a.colorFlag),
     ("config", Text.quote a.config),
     ("disable_functions", optionLiteral (fun ns => (Setting.names ns).literal) a.disableFunctions),
     ("file", optionLiteral Text.quote a.file),
     ("input_format", Text.quote a.inputFormat),
     ("max_depth", toString a.maxDepth),
     ("max_results", toString a.maxResults),
     ("out", Text.quote a.out),
     ("out_theme", Text.quote a.outTheme),
     ("query", Text.quote a.query)]
  "Command arguments (query): " ++ ", ".intercalate (fields.map fun (k, v) => k ++ "=" ++ v)

section
variable {m : Type → Type} [Monad m]

/-- Runs the `query` command. -/
def runQuery (host : Host m) (verbose : Bool) (saved : List (String × String))
    (args : QueryArgs) : Run m Unit := do
  let color := colorWanted host args.colorFlag
  if args.maxResults < 0 then throw (.badParameter "--max-results must be non-negative")
  if args.maxDepth < 1 then throw (.badParameter "--max-depth must be positive")
  let format ← liftResult (OutputFormat.ofName args.out)
  let disabled := args.disableFunctions.getD []
  let reg ← liftResult (disabledRegistry disabled)
  for line in disabledLog disabled do logLine verbose line
  let text ← resolveQuery verbose saved args.query
  let q ← liftResult ((Query.parse reg text).mapError fun e => .usage (e.render text))
  let doc ← loadDocument host verbose args.file args.inputFormat
  -- only the query language's runtime errors are reported as misuse; the others escape
  let nodes ← liftResult ((q.eval reg args.maxDepth doc).mapError fun e =>
    if e.kind = "QueryRuntimeError" then .usage (e.render text) else .fault e.kind (e.render text))
  let shown := if args.maxResults > 0 then nodes.take args.maxResults.toNat else nodes
  write (← liftResult (renderResults format color shown))

/-- Runs the `parse` command. -/
def runParse (verbose : Bool) (saved : List (String × String)) (query : String) : Run m Unit := do
  let text ← resolveQuery verbose saved query
  let q ← liftResult ((Query.parse Registry.builtin text).mapError fun e => .usage (e.render text))
  say q.render

/-- Runs the `functions` command. -/
def runFunctions (host : Host m) (colorFlag : Option Bool) : Run m Unit :=
  write (functionListing (colorWanted host colorFlag))

end

end JsonPath.Cli
