import JsonPath.Cli.Config
import JsonPath.Toml.Reader

/-!
# Loading documents

A document is read from a file, or from standard input when no file is named, as JSON or
as TOML. The format is asked for by name (`auto`, `json` or `toml`, in any case and with
blanks around it); `auto` picks TOML for a file whose name ends in `.toml` (in any case)
and JSON for anything else, standard input included.

A file that is missing, a directory, unreadable or not UTF-8 text is a bad parameter, and
so is a text that is not a document of its format; the message then names the source
(`<stdin>` for standard input) and quotes the reader's own complaint. A decimal integer, of
JSON or of TOML, of more digits than its conversion accepts is an error that loading does not
handle.
-/

set_option autoImplicit false

namespace JsonPath.Cli

/-- The format of a document. -/
inductive InputFormat where
  | auto
  | json
  | toml
deriving DecidableEq, Repr

/-- The name of a format. -/
def InputFormat.name : InputFormat → String
  | .auto => "auto"
  | .json => "json"
  | .toml => "toml"

/-- The formats, in the order a refusal lists them. -/
def InputFormat.all : List InputFormat := [.auto, .json, .toml]

/-- A text without the white space around it. -/
def stripSpace (s : String) : String :=
  String.ofList (((s.toList.dropWhile Text.isSpace).reverse.dropWhile Text.isSpace).reverse)

/-- A text with its ASCII capitals lowered. -/
def lowerAscii (s : String) : String := String.map Char.toLower s

/-- A name as it is compared with the names of choices: without blanks around it, lowered. -/
def choiceKey (s : String) : String := lowerAscii (stripSpace s)

/-- The format a name asks for. -/
def InputFormat.ofName (name : String) : Except Failure InputFormat :=
  match InputFormat.all.find? (·.name == choiceKey name) with
  | some f => .ok f
  | none => .error (.badParameter ("Unknown input format '" ++ name ++ "'. Choose one of: " ++
      ", ".intercalate (InputFormat.all.map InputFormat.name)))

/-- The last part of a path, trailing slashes aside. -/
def baseName (path : String) : String :=
  ((path.splitOn "/").filter (· ≠ "")).getLast?.getD ""

/-- The suffix of a path: from the last dot of its last part, when that dot is neither
first nor last. -/
def suffixOf (path : String) : String :=
  let name := (baseName path).toList
  match (List.range name.length).reverse.find? fun i => name[i]? == some '.' with
  | some i => if 0 < i && i + 1 < name.length then String.ofList (name.drop i) else ""
  | none => ""

/-- The format a document is read in: the one asked for, or for `auto` the one its file
name suggests. -/
def resolveFormat (file : Option String) (asked : String) : Except Failure InputFormat := do
  match ← InputFormat.ofName asked with
  | .auto =>
    match file with
    | some path => pure (if lowerAscii (suffixOf path) = ".toml" then .toml else .json)
    | none => pure .json
  | f => pure f

/-- The text of a document file, given what reading it found. -/
def fileText (path : String) : FileState → Except Failure String
  | .missing => .error (.badParameter ("Path '" ++ path ++ "' not found"))
  | .denied => .error (.badParameter ("Permission denied for '" ++ path ++ "'"))
  | .directory => .error (.badParameter ("Path '" ++ path ++ "' is a directory"))
  | .bytes data =>
    match textOf? data with
    | some text => .ok text
    | none => .error (.badParameter ("File '" ++ path ++ "' is not valid UTF-8 text"))

/-- Decodes the text of a document in a format, `source` naming where it came from. -/
def decodeDocument (format : InputFormat) (source text : String) : Except Failure Value :=
  match format with
  | .toml =>
    match Toml.read text with
    | .ok v => .ok v
    | .error (.tooManyDigits n) => .error (.fault "ValueError" (Syntax.tooManyDigitsMessage n))
    | .error (.invalid m) => .error (.badParameter ("Invalid TOML in '" ++ source ++ "': " ++ m))
  | _ =>
    match Json.read text with
    | .ok v => .ok v
    | .error (.tooManyDigits n) => .error (.fault "ValueError" (Syntax.tooManyDigitsMessage n))
    | .error e => .error (.badParameter ("Invalid JSON in '" ++ source ++ "': " ++ e.render text))

/-- The name a document's source goes by in messages. -/
def sourceName : Option String → String
  | some path => path
  | none => "<stdin>"

end JsonPath.Cli
