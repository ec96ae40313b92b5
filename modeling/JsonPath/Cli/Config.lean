import JsonPath.Cli.Basic
import JsonPath.Json.Reader
import JsonPath.Syntax.Grammar
import JsonPath.Text.Utf8

/-!
# The config file

A config file gives defaults to the options of the `query` command and names saved queries.
It is a JSON object with two optional sections:

    {"defaults": {"--max-results": 10, "--no-color": true},
     "queries": {"cheap": "$..book[?@.price < 10]"}}

Each default is checked by the option it names and stored under the option's destination,
the name of the parameter it sets: `--no-color: true` sets `color_flag` to false. The
functions to disable are kept apart, because a repeatable option given on the command line
replaces them instead of adding to them. Every saved query must be a query.

The file is found in the working directory under the name given by `--config` anywhere on
the command line (`.spath.json` when none is given); a missing file is an empty config. Any
other problem is a bad parameter whose message starts with `Malformed config: `, except three
errors that loading does not handle: bytes that are not UTF-8, an integer of the JSON text with
more digits than its conversion accepts, and the same in a saved query.
-/

set_option autoImplicit false

namespace JsonPath.Cli

/-- The name of the config file when the command line gives none. -/
def defaultConfigName : String := ".spath.json"

/-- The config file named by a command line (the arguments after the program name): the
argument after the first `--config` that has one, or the text after the first `--config=`,
whichever comes first. -/
def configName : List String → String
  | [] => defaultConfigName
  | [a] => if a.startsWith "--config=" then (a.drop 9).toString else defaultConfigName
  | a :: b :: rest =>
    if a = "--config" then b
    else if a.startsWith "--config=" then (a.drop 9).toString
    else configName (b :: rest)

/-! ## Paths -/

/-- A path with empty and `.` parts dropped, as a path is written back after it was read
(two leading slashes stay two). -/
def normalizePath (path : String) : String :=
  let parts := (path.splitOn "/").filter fun p => p ≠ "" && p ≠ "."
  let body := "/".intercalate parts
  if path.startsWith "//" && !path.startsWith "///" then "//" ++ body
  else if path.startsWith "/" then "/" ++ body
  else if body.isEmpty then "."
  else body

/-- A path relative to a directory, unless it is absolute. -/
def resolvePath (dir name : String) : String :=
  if name.startsWith "/" then normalizePath name
  else if name.isEmpty then normalizePath dir
  else normalizePath (dir ++ "/" ++ name)

/-! ## Files -/

/-- What reading a file found. -/
inductive FileState where
  | missing
  | directory
  | denied
  | bytes (data : ByteArray)

/-- A text as a file read in text mode gives it: every `\r\n` and every other `\r` become
`\n`. -/
def universalNewlines : List Char → List Char
  | '\r' :: '\n' :: rest => '\n' :: universalNewlines rest
  | '\r' :: rest => '\n' :: universalNewlines rest
  | c :: rest => c :: universalNewlines rest
  | [] => []

/-- The text of a file read in text mode, when its bytes are UTF-8. -/
def textOf? (data : ByteArray) : Option String :=
  (String.fromUTF8? data).map fun s => String.ofList (universalNewlines s.toList)

/-! ## Settings -/

/-- A value a config file gives an option. -/
inductive Setting where
  | flag (b : Bool)
  | number (n : Int)
  | text (s : String)
  | names (ns : List String)
deriving DecidableEq, Repr

/-- A setting as a literal of the language the program was configured in: `True`,
`512`, `'paths'`, `['match']`. -/
def Setting.literal : Setting → String
  | .flag b => if b then "True" else "False"
  | .number n => toString n
  | .text s => Text.quote s
  | .names ns => "[" ++ ", ".intercalate (ns.map Text.quote) ++ "]"

/-- Checks a value for an option, or gives the reason it is refused. -/
abbrev Check := Value → Except String Setting

/-- A boolean. -/
def checkFlag : Check
  | .bool b => .ok (.flag b)
  | _ => .error "expected true or false"

/-- A boolean, stored negated. -/
def checkInvertedFlag : Check
  | .bool b => .ok (.flag !b)
  | _ => .error "expected true or false"

/-- An integer (not a boolean) of at least `minimum`. -/
def checkInteger (minimum : Int) : Check
  | .num (.int n) => if n < minimum then .error s!"expected at least {minimum}" else .ok (.number n)
  | _ => .error "expected an integer"

/-- One of a few strings, listed sorted in the refusal. -/
def checkChoice (choices : List String) : Check
  | .str s => if choices.contains s then .ok (.text s) else .error ("expected one of " ++ ", ".intercalate choices)
  | _ => .error ("expected one of " ++ ", ".intercalate choices)

/-- A string with something else than white space. -/
def checkNonBlank : Check
  | .str s => if s.toList.all Text.isSpace then .error "expected a non-empty string" else .ok (.text s)
  | _ => .error "expected a non-empty string"

/-- A list of names of built-in functions; the unknown ones are listed in the refusal. -/
def checkFunctionNames : Check
  | .arr items =>
    match items.mapM (fun | .str s => some s | _ => none) with
    | some names =>
      let unknown := names.filter fun n => !Registry.builtin.contains n
      if unknown.isEmpty then .ok (.names names)
      else .error ("unknown function(s) " ++ ", ".intercalate unknown)
    | none => .error "expected a list of function names"
  | _ => .error "expected a list of function names"

/-- An option a config file may give a default: its name, its destination, how its value is
checked, and whether it is repeatable. -/
structure ConfigOption where
  name : String
  dest : String
  check : Check
  repeatable : Bool := false

/-- The options a config file may give defaults, sorted by name. -/
def configOptions : List ConfigOption :=
  [⟨"--color", "color_flag", checkFlag, false⟩,
   ⟨"--disable-function", "disable_functions", checkFunctionNames, true⟩,
   ⟨"--input-format", "input_format", checkChoice ["auto", "json", "toml"], false⟩,
   ⟨"--max-depth", "max_depth", checkInteger 1, false⟩,
   ⟨"--max-results", "max_results", checkInteger 0, false⟩,
   ⟨"--no-color", "color_flag", checkInvertedFlag, false⟩,
   ⟨"--out", "out", checkChoice ["nodes", "paths", "values"], false⟩,
   ⟨"--out-theme", "out_theme", checkNonBlank, false⟩,
   ⟨"--verbose", "verbose", checkFlag, false⟩]

/-! ## Loading -/

/-- What a config file says: defaults by destination, the functions to disable unless the
command line disables some, and the saved queries by name. -/
structure Config where
  defaults : List (String × Setting)
  disabled : Option (List String)
  queries : List (String × String)
deriving Repr

/-- The config of a missing file. -/
def Config.empty : Config := ⟨[], none, []⟩

/-- A refusal of the config file. -/
def malformed (reason : String) : Failure := .badParameter ("Malformed config: " ++ reason)

/-- The defaults under a name of a destination, replacing an earlier one of that name. -/
def putSetting (defaults : List (String × Setting)) (dest : String) (s : Setting) :
    List (String × Setting) :=
  if defaults.any (·.1 == dest) then defaults.map fun d => if d.1 == dest then (dest, s) else d
  else defaults ++ [(dest, s)]

/-- Checks the `defaults` section. -/
def readDefaults (part : Value) : Except Failure (List (String × Setting) × Option (List String)) :=
  match part with
  | .obj members =>
    if (Value.lookup members "--color").isSome && (Value.lookup members "--no-color").isSome then
      .error (malformed "--color and --no-color are mutually exclusive")
    else
      members.foldlM (fun (acc : List (String × Setting) × Option (List String)) (key, v) =>
        match configOptions.find? (·.name == key) with
        | none => .error (malformed ("unknown option " ++ key))
        | some opt =>
          match opt.check v with
          | .error reason => .error (malformed (key ++ ": " ++ reason))
          | .ok (.names ns) =>
            if opt.repeatable then .ok (acc.1, some ns) else .ok (putSetting acc.1 opt.dest (.names ns), acc.2)
          | .ok s => .ok (putSetting acc.1 opt.dest s, acc.2)) ([], none)
  | _ => .error (malformed "defaults must be an object")

/-- Checks the `queries` section: every saved query is a string that is a query. -/
def readQueries (part : Value) : Except Failure (List (String × String)) :=
  match part with
  | .obj members =>
    members.foldlM (fun (acc : List (String × String)) (name, v) =>
      match v with
      | .str text =>
        match Query.parse Registry.builtin text with
        | .ok _ => .ok (acc ++ [(name, text)])
        | .error e =>
          -- the conversion's error of a too long integer literal is not handled here
          match e.span? with
          | some _ =>
            .error (malformed ("saved query " ++ Text.quote name ++ " is invalid: " ++ e.message))
          | none => .error (.fault e.kind e.message)
      | _ => .error (malformed ("saved query " ++ Text.quote name ++ " must be a string"))) []
  | _ => .error (malformed "queries must be an object")

/-- Checks a config document. -/
def readConfig (doc : Value) : Except Failure Config :=
  match doc with
  | .obj members => do
    let unknown := sortNames ((members.map (·.1)).filter fun k => k ≠ "defaults" && k ≠ "queries")
    if !unknown.isEmpty then
      throw (malformed ("unknown section(s) " ++ ", ".intercalate unknown))
    let (defaults, disabled) ← readDefaults ((Value.lookup members "defaults").getD (.obj []))
    let queries ← readQueries ((Value.lookup members "queries").getD (.obj []))
    pure ⟨defaults, disabled, queries⟩
  | _ => .error (malformed "expected a JSON object")

/-- Loads the config found at `path`, given what reading it found. -/
def loadConfig (path : String) : FileState → Except Failure Config
  | .missing => .ok Config.empty
  | .bytes data =>
    match Text.utf8Fault? 0 data.toList with
    | some f => .error (.fault "UnicodeDecodeError" f.message)
    | none =>
      match textOf? data with
      | some text =>
        match Json.read text with
        | .ok doc => readConfig doc
        | .error (.tooManyDigits n) => .error (.fault "ValueError" (Syntax.tooManyDigitsMessage n))
        | .error (.invalid _ _) => .error (malformed ("cannot read " ++ path))
      | none => .error (malformed ("cannot read " ++ path))
  | _ => .error (malformed ("cannot read " ++ path))

end JsonPath.Cli
