import JsonPath.Cli.Config
import JsonPath.Text.Similarity
import JsonPath.Text.Integer

/-!
# Reading a command line

A command has parameters: arguments, taken by position, and options, named. An option is
a flag (`--color`, with a second name that turns it off, `--no-color`), takes one value
(`--out nodes`, `--out=nodes`), or takes one value each time it is repeated. A name of two
dashes is long; a name of one dash and a letter is short, and short flags may be written
together (`-vn 5`), the rest of the word then being the value of an option that takes one.
`--` ends the options.

Reading has two stages. First the words are sorted into options and positional words: an
unknown option name (with the closest known names suggested), a missing value and a value
given to a flag stop reading here. Then every parameter gets its value, in the order the
command line first used them (the help option before all), the others after them in the
order they are declared. A parameter the command line does not give takes its value from
the defaults of the config file, or else its own default. Converting an integer, or finding
a required argument missing, can fail at this stage. Positional words beyond the arguments
are refused last.
-/

set_option autoImplicit false

namespace JsonPath.Cli

/-- How an option takes its value. -/
inductive OptionKind where
  /-- No value: the option's names set it on, its second names set it off. -/
  | flag
  /-- One value after the option; the last one given counts. -/
  | single
  /-- One value after the option each time it is given; all count. -/
  | repeated
deriving DecidableEq, Repr

/-- The type of the value of a parameter. -/
inductive ValueType where
  | text
  | integer
deriving DecidableEq, Repr

/-- A parameter of a command. -/
structure Param where
  /-- The name the value goes by. -/
  dest : String
  /-- An argument's name in usage lines and messages, as `QUERY`; empty for an option. -/
  metavar : String := ""
  /-- The names of an option, as declared. -/
  names : List String := []
  /-- The names that turn a flag off. -/
  offNames : List String := []
  kind : OptionKind := .single
  type : ValueType := .text
  required : Bool := false
  /-- Whether the parameter is handled before all others (the help option). -/
  eager : Bool := false

namespace Param

/-- Whether the parameter is an argument rather than an option. -/
def isArgument (p : Param) : Bool := p.names.isEmpty && p.offNames.isEmpty

/-- The parameter as messages name it: `'QUERY'`, or `'--max-results' / '-n'`. -/
def hint (p : Param) : String :=
  if p.isArgument then "'" ++ p.metavar ++ "'"
  else " / ".intercalate (p.names.map fun n => "'" ++ n ++ "'")

end Param

/-- What a command line said about one parameter. -/
inductive Given where
  /-- A flag was turned on or off. -/
  | switch (on : Bool)
  /-- An option or an argument was given a word. -/
  | word (w : String)
deriving DecidableEq, Repr

/-- The words of a command line sorted: what each parameter was given, in the order given,
the parameters in the order they were first used, and the words left over. -/
structure Sorted where
  given : List (String × List Given)
  order : List String
  rest : List String
deriving Repr

/-- Records what a parameter was given. -/
def Sorted.record (s : Sorted) (dest : String) (g : Given) : Sorted :=
  let given := if s.given.any (·.1 == dest) then
      s.given.map fun p => if p.1 == dest then (dest, p.2 ++ [g]) else p
    else s.given ++ [(dest, [g])]
  { s with given, order := s.order ++ [dest] }

/-- A name as messages quote it. -/
def quoteName (name : String) : String := Text.quote name

/-- The refusal of an unknown option, with the names suggested in its place. -/
def noSuchOption (name : String) (suggestions : List String) : Failure :=
  let base := "No such option " ++ quoteName name ++ "."
  match sortNames suggestions with
  | [] => .usage base
  | [one] => .usage (base ++ " Did you mean " ++ quoteName one ++ "?")
  | many => .usage (base ++ " (Possible options: " ++ ", ".intercalate (many.map quoteName) ++ ")")

/-- The option with a name, and whether the name turns it off. -/
def findOption (params : List Param) (name : String) : Option (Param × Bool) :=
  (params.find? (·.names.contains name)).map (·, false) |>.orElse fun _ =>
    (params.find? (·.offNames.contains name)).map (·, true)

/-- Whether a name is long: it starts with two dashes. -/
def isLongName (name : String) : Bool := name.startsWith "--"

/-- The long names of the options. -/
def longNames (params : List Param) : List String :=
  (params.flatMap fun p => p.names ++ p.offNames).filter isLongName

/-- The state of sorting: the words not yet read, the positional words, and what is
sorted. -/
structure Reading where
  words : List String
  positional : List String
  sorted : Sorted

/-- Takes the value of an option named `name` from the words. -/
def takeValue (name : String) (r : Reading) : Except Failure (String × Reading) :=
  match r.words with
  | w :: rest => .ok (w, { r with words := rest })
  | [] => .error (.usage ("Option " ++ quoteName name ++ " requires an argument."))

/-- Reads the short options written together in `word` (after its dash). -/
def shortOptions (params : List Param) (dash : Char) : List Char → Reading → Except Failure Reading
  | [], r => .ok r
  | c :: more, r =>
    let name := String.ofList [dash, c]
    match findOption params name with
    | none => .error (noSuchOption name [])
    | some (p, off) =>
      if p.kind = .flag then
        shortOptions params dash more { r with sorted := r.sorted.record p.dest (.switch !off) }
      else do
        let r := if more.isEmpty then r else { r with words := String.ofList more :: r.words }
        let (v, r) ← takeValue name r
        pure { r with sorted := r.sorted.record p.dest (.word v) }

/-- Reads a word that starts with a dash: as a long option, with a value after `=`, and
failing that as short options written together. -/
def optionWord (params : List Param) (word : String) (r : Reading) : Except Failure Reading :=
  let (name, explicit) := match word.splitOn "=" with
    | n :: v :: more => (n, some ("=".intercalate (v :: more)))
    | _ => (word, none)
  match (findOption params name).filter fun _ => isLongName name with
  | some (p, off) =>
    if p.kind = .flag then
      match explicit with
      | some _ => .error (.usage ("Option " ++ quoteName name ++ " does not take a value."))
      | none => .ok { r with sorted := r.sorted.record p.dest (.switch !off) }
    else do
      let r := match explicit with
        | some v => { r with words := v :: r.words }
        | none => r
      let (v, r) ← takeValue name r
      pure { r with sorted := r.sorted.record p.dest (.word v) }
  | none =>
    if word.startsWith "--" then .error (noSuchOption name (Text.closeMatches name (longNames params)))
    else match word.toList with
      | dash :: more => shortOptions params dash more r
      | [] => .ok r

/-- Sorts the words of a command line; `interspersed` lets options follow positional words,
otherwise the first positional word ends the options. -/
def sortWords (params : List Param) (interspersed : Bool) : Nat → Reading → Except Failure Reading
  | 0, r => .ok r
  | fuel + 1, r =>
    match r.words with
    | [] => .ok r
    | w :: rest =>
      if w = "--" then .ok { r with words := rest }
      else if w.startsWith "-" && w.length > 1 then do
        let r ← optionWord params w { r with words := rest }
        sortWords params interspersed fuel r
      else if interspersed then
        sortWords params interspersed fuel { r with words := rest, positional := r.positional ++ [w] }
      else .ok r

/-- Sorts a command line: the options, then the positional words given to the arguments in
order, each argument recorded as used even when no word is left for it. -/
def sortCommandLine (params : List Param) (interspersed : Bool) (words : List String) :
    Except Failure Sorted := do
  let r ← sortWords params interspersed words.length ⟨words, [], ⟨[], [], []⟩⟩
  let left := r.positional ++ r.words
  let args := params.filter Param.isArgument
  let sorted := args.zipIdx.foldl (fun (s : Sorted) (p, i) =>
      match left[i]? with
      | some w => s.record p.dest (.word w)
      | none => { s with order := s.order ++ [p.dest] }) r.sorted
  pure { sorted with rest := left.drop args.length }

/-- The order parameters are given their values: the eager ones first, then by first use,
then the unused ones in the order they are declared. -/
def processingOrder (params : List Param) (order : List String) : List Param :=
  let rank (p : Param) : Nat := (order.findIdx? (· == p.dest)).getD order.length
  let key (p : Param) : Nat × Nat := (if p.eager then 0 else 1, rank p)
  params.mergeSort fun p q => decide ((key p).1 < (key q).1 ∨ ((key p).1 = (key q).1 ∧ (key p).2 ≤ (key q).2))

/-- The value a parameter ends up with. -/
inductive ParamValue where
  | absent
  | switch (on : Bool)
  | text (s : String)
  | number (n : Int)
  | texts (ws : List String)
deriving DecidableEq, Repr

/-- The value of a setting from the config file. -/
def settingValue : Setting → ParamValue
  | .flag b => .switch b
  | .number n => .number n
  | .text s => .text s
  | .names ns => .texts ns

/-- Gives a parameter its value: from the command line, else from the defaults, else
absent; converting a word to an integer and a missing required argument can fail. -/
def paramValue (p : Param) (given : List Given) (default? : Option Setting) :
    Except Failure ParamValue :=
  let words := given.filterMap fun | .word w => some w | _ => none
  let switches := given.filterMap fun | .switch b => some b | _ => none
  let fromDefault := match default? with
    | some s => settingValue s
    | none => .absent
  match p.kind with
  | .flag => .ok (match switches.getLast? with
    | some b => .switch b
    | none => fromDefault)
  | .repeated => .ok (if words.isEmpty then fromDefault else .texts words)
  | .single =>
    match words.getLast? with
    | some w =>
      match p.type with
      | .text => .ok (.text w)
      | .integer =>
        match Text.integerOf? w with
        | some n => .ok (.number n)
        | none => .error (.usage ("Invalid value for " ++ p.hint ++ ": " ++ quoteName w ++
            " is not a valid integer."))
    | none =>
      if p.required && fromDefault = .absent then
        .error (.usage ("Missing " ++ (if p.isArgument then "argument" else "option") ++ " " ++
          p.hint ++ "."))
      else .ok fromDefault

end JsonPath.Cli
