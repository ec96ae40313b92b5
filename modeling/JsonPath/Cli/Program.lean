import JsonPath.Cli.Command
import JsonPath.Cli.CommandLine
import JsonPath.Cli.Help

/-!
# The program

`spath [OPTIONS] COMMAND [ARGS]...` runs one of the commands `query`, `parse` and
`functions`. A run goes through these steps:

1. The config file is loaded (see `JsonPath.Cli.Config`); a malformed one stops the program
   before anything else, with an error it does not handle. Its `--verbose` default turns
   logging on, and its other defaults become the defaults of the `query` command.
2. The program's own options are read up to the command name: `-v`/`--verbose` turns
   logging on and `--help` prints the program's help. No words at all print the help as an
   error.
3. The command's words are read (see `JsonPath.Cli.CommandLine`), its help printed if asked,
   and the command run (see `JsonPath.Cli.Command`). A command-line error or a refusal of
   the command is printed to standard error after the usage line, and the program exits
   with status 2.

Logging writes to standard output. For `query` it first gives the config defaults used and
the arguments the command runs with.
-/

set_option autoImplicit false

namespace JsonPath.Cli

/-- How a run of the program ends: with an exit status, or with an error it does not
handle, of a kind and with a message. -/
inductive Ending where
  | exit (code : Nat)
  | uncaught (kind message : String)
deriving DecidableEq, Repr

/-- A run of the program: how it ended, and what it wrote to standard output and to
standard error. -/
structure Outcome where
  ending : Ending
  stdout : String
  stderr : String
deriving Repr

/-! ## The commands' parameters -/

/-- The help option of every command. -/
def helpParam : Param := { dest := "help", names := ["--help"], kind := .flag, eager := true }

/-- The program's own options. -/
def mainParams : List Param :=
  [{ dest := "verbose", names := ["--verbose", "-v"], kind := .flag },
   { dest := "install_completion", names := ["--install-completion"], kind := .flag },
   { dest := "show_completion", names := ["--show-completion"], kind := .flag },
   helpParam]

/-- The parameters of `query`. -/
def queryParams : List Param :=
  [{ dest := "query", metavar := "QUERY", required := true },
   { dest := "file", metavar := "FILE" },
   { dest := "config", names := ["--config"] },
   { dest := "input_format", names := ["--input-format"] },
   { dest := "out", names := ["--out"] },
   { dest := "out_theme", names := ["--out-theme"] },
   { dest := "max_results", names := ["--max-results", "-n"], type := .integer },
   { dest := "max_depth", names := ["--max-depth"], type := .integer },
   { dest := "color_flag", names := ["--color"], offNames := ["--no-color"], kind := .flag },
   { dest := "disable_functions", names := ["--disable-function"], kind := .repeated },
   helpParam]

/-- The parameters of `parse`. -/
def parseParams : List Param := [{ dest := "query", metavar := "QUERY", required := true }, helpParam]

/-- The parameters of `functions`. -/
def functionsParams : List Param :=
  [{ dest := "color_flag", names := ["--color"], offNames := ["--no-color"], kind := .flag },
   helpParam]

/-- The default theme of highlighted output. -/
def defaultTheme : String := "github-dark"

/-- The default of the greatest document depth. -/
def defaultMaxDepth : Int := 512

/-- The declared defaults of the options of `query`. -/
def queryDefaults : List (String × Setting) :=
  [("config", .text defaultConfigName), ("input_format", .text "auto"), ("out", .text "values"),
   ("out_theme", .text defaultTheme), ("max_results", .number 0),
   ("max_depth", .number defaultMaxDepth)]

/-! ## Help -/

/-- The row of the help option. -/
def helpRow : String × String := ("--help", "Show this message and exit.")

/-- The commands, with their one-line help. -/
def commandRows : List (String × String) :=
  [("query", "Select values from a JSON or TOML document."),
   ("parse", "Check a query and print its canonical form."),
   ("functions", "List functions available in filter expressions.")]

/-- The help of the program. -/
def mainHelp : HelpPage :=
  { path := "spath", usage := "[OPTIONS] COMMAND [ARGS]...",
    text := "Select values from JSON and TOML documents with path queries.",
    sections := [
      ⟨"Options", [("-v, --verbose", "Enable verbose logging output"),
        ("--install-completion", "Install completion for the current shell."),
        ("--show-completion",
          "Show completion for the current shell, to copy it or customize the installation."),
        helpRow]⟩,
      ⟨"Commands", commandRows⟩] }

/-- A description with its default shown after it. -/
def withDefault (description : String) : Option String → String
  | some d => if d.isEmpty then description else description ++ "  [default: " ++ d ++ "]"
  | none => description

/-- A setting as a help page shows it as a default. -/
def Setting.shown : Setting → String
  | .flag b => if b then "True" else "False"
  | .number n => toString n
  | .text s => s
  | .names ns => ", ".intercalate ns

/-- The help of `query`; the defaults shown are those of the config file where it gives
them. A colour default from the config file is shown as `--no-color`, whichever it is. -/
def queryHelp (defaults : List (String × Setting)) : HelpPage :=
  let shown (dest : String) : Option String :=
    ((defaults.find? (·.1 == dest)).orElse fun _ => queryDefaults.find? (·.1 == dest)).map
      fun p => p.2.shown
  { path := "spath query", usage := "[OPTIONS] QUERY [FILE]",
    text := "Select values from a JSON or TOML document.",
    sections := [
      ⟨"Arguments", [("QUERY", "[required]"), ("[FILE]", "")]⟩,
      ⟨"Options", [
        ("--config FILE", withDefault "Config file name to load from current directory"
          (shown "config")),
        ("--input-format TEXT", withDefault "Document format: auto, json or toml"
          (shown "input_format")),
        ("--out TEXT", withDefault "Output format: values, nodes or paths" (shown "out")),
        ("--out-theme TEXT", withDefault "Syntax theme for highlighted JSON output"
          (shown "out_theme")),
        ("-n, --max-results N", withDefault "Maximum number of results to display (0 for all)"
          (shown "max_results")),
        ("--max-depth N", withDefault
          "Maximum document depth for descendant segments and filter nesting"
          (shown "max_depth")),
        ("--color / --no-color", withDefault "Force colored output"
          ((defaults.find? (·.1 == "color_flag")).map fun _ => "--no-color")),
        ("--disable-function NAME", "Built-in function to make unavailable (repeatable)"),
        helpRow]⟩] }

/-- The help of `parse`. -/
def parseHelp : HelpPage :=
  { path := "spath parse", usage := "[OPTIONS] QUERY",
    text := "Check a query and print its canonical form.",
    sections := [⟨"Arguments", [("QUERY", "[required]")]⟩, ⟨"Options", [helpRow]⟩] }

/-- The help of `functions`. -/
def functionsHelp : HelpPage :=
  { path := "spath functions", usage := "[OPTIONS]",
    text := "List functions available in filter expressions.",
    sections := [⟨"Options", [("--color / --no-color", "Force colored output"), helpRow]⟩] }

/-! ## Running -/

/-- A run that printed to standard output and exited with a status. -/
def exitWith (code : Nat) (stdout stderr : String) : Outcome := ⟨.exit code, stdout, stderr⟩

/-- The outcome of a command-line error of a command with a help page, after `stdout`. -/
def misuse (page : HelpPage) (stdout : String) (f : Failure) : Outcome :=
  match f with
  | .fault kind text => ⟨.uncaught kind text, stdout, ""⟩
  | _ => exitWith 2 stdout (usageError page.path page.usage f.message)

/-- Gives every parameter of a command its value in the order of processing, or stops at
the first failure. The help option, when given, stops with `none`. -/
def processParams (params : List Param) (sorted : Sorted) (defaults : List (String × Setting)) :
    Except Failure (Option (List (String × ParamValue))) :=
  (processingOrder params sorted.order).foldlM (fun (acc : Option (List (String × ParamValue))) p =>
    match acc with
    | none => .ok none
    | some values => do
      let given := ((sorted.given.find? (·.1 == p.dest)).map (·.2)).getD []
      let v ← paramValue p given ((defaults.find? (·.1 == p.dest)).map (·.2))
      if p.eager && v = .switch true then pure none
      else pure (some (values ++ [(p.dest, v)]))) (some [])

/-- The refusal of positional words no argument takes. -/
def extraWords (words : List String) : Failure :=
  .usage ((if words.length = 1 then "Got unexpected extra argument (" else
    "Got unexpected extra arguments (") ++ " ".intercalate words ++ ")")

/-- A parameter's value. -/
def valueOf (values : List (String × ParamValue)) (dest : String) : Option ParamValue :=
  (values.find? (·.1 == dest)).map (·.2)

/-- A parameter's value as text. -/
def textValue (values : List (String × ParamValue)) (dest : String) : Option String :=
  match valueOf values dest with
  | some (.text s) => some s
  | _ => none

/-- A parameter's value as an integer. -/
def numberValue (values : List (String × ParamValue)) (dest : String) : Option Int :=
  match valueOf values dest with
  | some (.number n) => some n
  | _ => none

/-- A flag's value, when set. -/
def switchValue (values : List (String × ParamValue)) (dest : String) : Option Bool :=
  match valueOf values dest with
  | some (.switch b) => some b
  | _ => none

/-- The arguments `query` runs with, from the values of its parameters and the functions
the config file disables when the command line disables none. -/
def queryArgsOf (values : List (String × ParamValue)) (disabled : Option (List String)) :
    QueryArgs :=
  let given := match valueOf values "disable_functions" with
    | some (.texts ns) => if ns.isEmpty then none else some ns
    | _ => none
  { query := (textValue values "query").getD "",
    file := textValue values "file",
    config := (textValue values "config").getD defaultConfigName,
    inputFormat := (textValue values "input_format").getD "auto",
    out := (textValue values "out").getD "values",
    outTheme := (textValue values "out_theme").getD defaultTheme,
    maxResults := (numberValue values "max_results").getD 0,
    maxDepth := (numberValue values "max_depth").getD defaultMaxDepth,
    colorFlag := switchValue values "color_flag",
    disableFunctions := given.orElse fun _ => disabled }

/-- The log line of the config defaults `query` uses, by option name, when there are any. -/
def defaultsLog (defaults : List (String × Setting)) (disabled : Option (List String)) :
    List String :=
  let applied := defaults ++ (match disabled with
    | some ns => [("disable_functions", Setting.names ns)]
    | none => [])
  let entries := configOptions.filterMap fun o =>
    if o.name = "--no-color" then none
    else (applied.find? (·.1 == o.dest)).map fun p => o.name ++ "=" ++ p.2.literal
  if entries.isEmpty then [] else ["Config defaults applied (query): " ++ ", ".intercalate entries]

section
variable {m : Type → Type} [Monad m]

/-- Runs a command to its end: what it wrote, and how it failed if it did. -/
def finish (page : HelpPage) (run : Run m Unit) : m Outcome := do
  let (result, out) ← (run.run).run ""
  pure (match result with
    | .ok () => exitWith 0 out ""
    | .error f => misuse page out f)

/-- Runs a command on its words, given the config and whether logging is on. -/
def runCommand (host : Host m) (config : Config) (verbose : Bool) (name : String)
    (words : List String) : m Outcome :=
  let defaults := config.defaults.filter (·.1 != "verbose")
  let (params, page, commandDefaults) := match name with
    | "query" => (queryParams, queryHelp defaults, defaults)
    | "parse" => (parseParams, parseHelp, [])
    | _ => (functionsParams, functionsHelp, [])
  match sortCommandLine params true words with
  | .error f => pure (misuse page "" f)
  | .ok sorted =>
    match processParams params sorted commandDefaults with
    | .error f => pure (misuse page "" f)
    | .ok none => pure (exitWith 0 (page.render ++ "\n") "")
    | .ok (some values) =>
      if !sorted.rest.isEmpty then pure (misuse page "" (extraWords sorted.rest))
      else match name with
        | "query" =>
          let args := queryArgsOf values config.disabled
          finish page do
            if verbose then
              for line in defaultsLog defaults config.disabled do say line
              say args.logLine
            runQuery host verbose config.queries args
        | "parse" => finish page (runParse verbose config.queries ((textValue values "query").getD ""))
        | _ => finish page (runFunctions host (switchValue values "color_flag"))

/-- Whether a word looks like an option to the program rather than a command name: it
starts with a character that is not alphanumeric. -/
def looksLikeOption (word : String) : Bool :=
  match word.toList with
  | c :: _ => !Text.isAlphanumeric c
  | [] => false

/-- Runs the program on the words of its command line. -/
def runProgram (host : Host m) (argv : List String) : m Outcome := do
  let path := resolvePath host.cwd (configName argv)
  let found ← host.inspect path
  match loadConfig path found with
  | .error (.fault kind text) => pure ⟨.uncaught kind text, "", ""⟩
  | .error f => pure ⟨.uncaught "BadParameter" f.message, "", ""⟩
  | .ok config =>
    let verboseDefault := match (config.defaults.find? (·.1 == "verbose")).map (·.2) with
      | some (.flag b) => b
      | _ => false
    let helpText := mainHelp.render ++ "\n"
    if argv.isEmpty then pure (exitWith 2 "" helpText)
    else
      match sortCommandLine mainParams false argv with
      | .error f => pure (misuse mainHelp "" f)
      | .ok sorted =>
        match processParams mainParams sorted [] with
        | .error f => pure (misuse mainHelp "" f)
        | .ok none => pure (exitWith 0 helpText "")
        | .ok (some values) =>
          if switchValue values "install_completion" = some true ||
              switchValue values "show_completion" = some true then
            pure (exitWith 1 "" "Shell  not supported.\n")
          else
            match sorted.rest with
            | [] => pure (misuse mainHelp "" (.usage "Missing command."))
            | name :: words =>
              if ["query", "parse", "functions"].contains name then
                let verbose := switchValue values "verbose" = some true || verboseDefault
                runCommand host config verbose name words
              else if looksLikeOption name then pure (exitWith 2 "" helpText)
              else pure (misuse mainHelp "" (.usage ("No such command " ++ Text.quote name ++ ".")))

end

end JsonPath.Cli
