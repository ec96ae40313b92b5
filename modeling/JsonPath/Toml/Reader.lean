import JsonPath.Toml.Scalar

/-!
# Reading TOML documents

`Toml.read` reads a TOML document into a `Value`: the document is an object, tables are
objects, arrays (inline ones and arrays of tables) are arrays, and dates and times are
their ISO texts. A carriage return before a line feed is dropped first.

The document is a sequence of statements, one a line: a key/value pair, a `[table]`
header, an `[[array]]` header, or nothing, each with an optional comment after it. A header
opens a section; the keys of the pairs that follow are read below it. The marks of
`JsonPath.Toml.Basic` decide which tables a header or a dotted key may still open, and the
refusals name the key as a tuple, as in `Cannot declare ('a',) twice`.

Values nest in arrays and inline tables; the reader of a value, of the items of an array,
of the members of an inline table and of a key/value pair call one another with a fuel
that two characters of input always pay for.
-/

set_option autoImplicit false

namespace JsonPath.Toml

/-! ## Keys -/

/-- Reads one part of a key: bare, or a one-line string of either kind. -/
def keyPart (cs : List Char) : Except Failure (String × List Char) :=
  match cs with
  | c :: rest =>
    if isBareKeyChar c then .ok (String.ofList (cs.takeWhile isBareKeyChar), cs.dropWhile isBareKeyChar)
    else if c = '\'' then literalBody rest
    else if c = '"' then basicBody false rest
    else .error (.of "Invalid initial character for a key part" cs)
  | [] => .error (.of "Invalid initial character for a key part" cs)

/-- Reads a dotted key, with the blanks around its dots and after it. -/
def readKey (cs : List Char) : Except Failure (Key × List Char) :=
  go cs.length cs
where
  /-- Reads one more part, then more after a dot. -/
  go : Nat → List Char → Except Failure (Key × List Char)
    | 0, cs => .error (.of "Invalid initial character for a key part" cs)
    | fuel + 1, cs => do
      let (part, rest) ← keyPart cs
      match rest.dropWhile isBlank with
      | '.' :: more => do
        let (parts, rest) ← go fuel (more.dropWhile isBlank)
        pure (part :: parts, rest)
      | rest => pure ([part], rest)

/-! ## Values -/

/-- The message when the fuel runs out, which the fuel given never lets happen. -/
def depthMessage : String := "Invalid value"

/-- Adds a pair to an inline table under construction, refusing a key given twice or one
that reaches into a frozen value. -/
def addInline (members : Members) (marks : Marks) (key : Key) (v : Entry) (rest : List Char) :
    Except Failure Members :=
  if isFrozen marks key then
    .error (.of ("Cannot mutate immutable namespace " ++ key.render) rest)
  else
    let stem := key.getLast?.getD ""
    match updateNest false (fun nest =>
        if nest.has stem then .error ("Duplicate inline table key " ++ Text.quote stem)
        else .ok (nest.put stem v)) key.dropLast members with
    | .ok ms => .ok ms
    | .error m => .error (.of m rest)

mutual
/-- Reads one value at the front of the input. -/
def readValue : Nat → List Char → Except Failure (Entry × List Char)
  | 0, cs => .error (.of depthMessage cs)
  | fuel + 1, cs =>
    match cs with
    | '"' :: rest =>
      if ['"', '"'].isPrefixOf rest then
        (multilineString false cs).map fun (s, r) => (.leaf (.str s), r)
      else (basicBody false rest).map fun (s, r) => (.leaf (.str s), r)
    | '\'' :: rest =>
      if ['\'', '\''].isPrefixOf rest then
        (multilineString true cs).map fun (s, r) => (.leaf (.str s), r)
      else (literalBody rest).map fun (s, r) => (.leaf (.str s), r)
    | '[' :: rest => do
      let rest ← skipArrayBlanks rest
      match rest with
      | ']' :: after => pure (.array [], after)
      | _ => arrayItems fuel [] rest
    | '{' :: rest =>
      match rest.dropWhile isBlank with
      | '}' :: after => .ok (.table [], after)
      | rest => inlineMembers fuel [] [] rest
    | _ =>
      if "true".toList.isPrefixOf cs then .ok (.leaf (.bool true), cs.drop 4)
      else if "false".toList.isPrefixOf cs then .ok (.leaf (.bool false), cs.drop 5)
      else match dateTime? cs with
      | some (some text, rest) => .ok (.leaf (.str text), rest)
      | some (none, _) => .error (.of "Invalid date or datetime" cs)
      | none =>
        match clock? cs with
        | some (t, rest) => .ok (.leaf (.str t.render), rest)
        | none =>
          match prefixedInteger? cs with
          | some (v, rest) => .ok (.leaf v, rest)
          | none =>
            match decimalNumber? cs with
            | some (.num (.int i), rest) =>
              -- the conversion of a decimal integer refuses too many digits; a prefixed one
              -- is in a base that is a power of two, which it converts at any length
              if Syntax.maxIntDigits < Syntax.intDigits i then
                .error (.tooManyDigits (Syntax.intDigits i))
              else .ok (.leaf (.num (.int i)), rest)
            | some (v, rest) => .ok (.leaf v, rest)
            | none =>
              match specialFloat? cs with
              | some (v, rest) => .ok (.leaf v, rest)
              | none => .error (.of "Invalid value" cs)

/-- Reads the items of an array from the next item on; `acc` holds those read. -/
def arrayItems : Nat → List Entry → List Char → Except Failure (Entry × List Char)
  | 0, _, cs => .error (.of depthMessage cs)
  | fuel + 1, acc, cs => do
    let (v, rest) ← readValue fuel cs
    let rest ← skipArrayBlanks rest
    match rest with
    | ']' :: after => pure (.array (acc ++ [v]), after)
    | ',' :: after => do
      let after ← skipArrayBlanks after
      match after with
      | ']' :: done => pure (.array (acc ++ [v]), done)
      | _ => arrayItems fuel (acc ++ [v]) after
    | _ => .error (.of "Unclosed array" rest)

/-- Reads the members of an inline table from the next pair on; `members` holds those read
and `marks` freezes the inline values among them. -/
def inlineMembers : Nat → Members → Marks → List Char → Except Failure (Entry × List Char)
  | 0, _, _, cs => .error (.of depthMessage cs)
  | fuel + 1, members, marks, cs => do
    let ((key, v), rest) ← keyValue fuel cs
    let members ← addInline members marks key v rest
    let rest := rest.dropWhile isBlank
    match rest with
    | '}' :: after => pure (.table members, after)
    | ',' :: after =>
      let marks := if v.isContainer then markFrozen marks key else marks
      inlineMembers fuel members marks (after.dropWhile isBlank)
    | _ => .error (.of "Unclosed inline table" rest)

/-- Reads a key, `=` and a value. -/
def keyValue : Nat → List Char → Except Failure ((Key × Entry) × List Char)
  | 0, cs => .error (.of depthMessage cs)
  | fuel + 1, cs => do
    let (key, rest) ← readKey cs
    match rest with
    | '=' :: after => do
      let (v, rest) ← readValue fuel (after.dropWhile isBlank)
      pure ((key, v), rest)
    | _ => .error (.of "Expected '=' after a key in a key/value pair" rest)
end

/-! ## Statements -/

/-- What the statements read so far have built: the document, the marks on its keys, the
tables dotted keys made in the current section, and the key of that section. -/
structure Sheet where
  members : Members
  marks : Marks
  pending : List Key
  header : Key

/-- The sheet of an empty document. -/
def Sheet.empty : Sheet := ⟨[], [], [], []⟩

/-- Marks the tables made by dotted keys explicit, as a new header does. -/
def Sheet.settle (s : Sheet) : Sheet :=
  { s with marks := s.pending.foldl markExplicit s.marks, pending := [] }

/-- The failure for a change of the document refused with a message. -/
def refusedAt (rest : List Char) : Except String Members → Except Failure Members
  | .ok ms => .ok ms
  | .error m => .error (.of m rest)

/-- Reads a key/value pair statement into the current section. -/
def pairStatement (fuel : Nat) (s : Sheet) (cs : List Char) : Except Failure (Sheet × List Char) := do
  let ((key, v), rest) ← keyValue fuel cs
  let parent := s.header ++ key.dropLast
  let stem := key.getLast?.getD ""
  let within := (List.range (key.length - 1)).map fun i => s.header ++ key.take (i + 1)
  let pending ← within.foldlM (fun (pending : List Key) k =>
      if isExplicit s.marks k then
        .error (.of ("Cannot redefine namespace " ++ k.render) rest)
      else .ok (pending ++ [k])) s.pending
  if isFrozen s.marks parent then
    .error (.of ("Cannot mutate immutable namespace " ++ parent.render) rest)
  let members ← refusedAt rest <| updateNest true (fun nest =>
      if nest.has stem then .error overwriteMessage else .ok (nest.put stem v)) parent s.members
  let marks := if v.isContainer then markFrozen s.marks (s.header ++ key) else s.marks
  pure ({ s with members, marks, pending }, rest)

/-- Reads a `[table]` header, at its bracket. -/
def tableStatement (s : Sheet) (cs : List Char) : Except Failure (Sheet × List Char) := do
  let (key, rest) ← readKey ((cs.drop 1).dropWhile isBlank)
  if isExplicit s.marks key || isFrozen s.marks key then
    .error (.of ("Cannot declare " ++ key.render ++ " twice") rest)
  let marks := markExplicit s.marks key
  let members ← refusedAt rest <| updateNest true .ok key s.members
  match rest with
  | ']' :: after => pure ({ s with members, marks, header := key }, after)
  | _ => .error (.of "Expected ']' at the end of a table declaration" rest)

/-- Reads an `[[array]]` header, at its brackets. -/
def arrayStatement (s : Sheet) (cs : List Char) : Except Failure (Sheet × List Char) := do
  let (key, rest) ← readKey ((cs.drop 2).dropWhile isBlank)
  if isFrozen s.marks key then
    .error (.of ("Cannot mutate immutable namespace " ++ key.render) rest)
  let marks := markExplicit (unmark s.marks key) key
  let members ← refusedAt rest <| appendTable key s.members
  match rest with
  | ']' :: ']' :: after => pure ({ s with members, marks, header := key }, after)
  | _ => .error (.of "Expected ']]' at the end of an array declaration" rest)

/-- Reads one statement at the start of a line, after its leading blanks: the sheet after
it and the input after its blanks and comment. -/
def statement (fuel : Nat) (s : Sheet) (cs : List Char) : Except Failure (Sheet × List Char) :=
  match cs with
  | '[' :: rest => do
    let s := s.settle
    let (s, after) ← match rest with
      | '[' :: _ => arrayStatement s cs
      | _ => tableStatement s cs
    let after ← skipComment (after.dropWhile isBlank)
    pure (s, after)
  | c :: _ =>
    if isBareKeyChar c || c = '"' || c = '\'' then do
      let (s, after) ← pairStatement fuel s cs
      let after ← skipComment (after.dropWhile isBlank)
      pure (s, after)
    else if c = '#' then do
      let after ← skipComment cs
      pure (s, after)
    else .error (.of "Invalid statement" cs)
  | [] => .ok (s, [])

/-- Reads the statements of a document, line by line. -/
def statements (fuel : Nat) : Nat → Sheet → List Char → Except Failure Sheet
  | 0, s, _ => .ok s
  | lines + 1, s, cs =>
    match cs.dropWhile isBlank with
    | [] => .ok s
    | '\n' :: rest => statements fuel lines s rest
    | line => do
      let (s, after) ← statement fuel s line
      match after with
      | [] => pure s
      | '\n' :: rest => statements fuel lines s rest
      | _ => .error (.of "Expected newline or end of document after a statement" after)

/-- The text with every carriage return that stands before a line feed dropped. -/
def dropCarriageReturns : List Char → List Char
  | '\r' :: '\n' :: rest => '\n' :: dropCarriageReturns rest
  | c :: rest => c :: dropCarriageReturns rest
  | [] => []

/-- Reads a TOML document, or says why it is not one. -/
def read (text : String) : Except Error Value :=
  let src := dropCarriageReturns text.toList
  match statements (3 * src.length + 3) (src.length + 1) Sheet.empty src with
  | .ok s => .ok (Entry.toValue (.table s.members))
  | .error f => .error (f.toError src)

end JsonPath.Toml
