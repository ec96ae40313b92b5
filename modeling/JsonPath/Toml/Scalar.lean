import JsonPath.Toml.Basic
import JsonPath.Number.Literal

/-!
# TOML strings, numbers, dates and times

The values that are not arrays or tables.

* Strings come in four kinds. A basic string `"..."` reads escapes (`\b \t \n \f \r \" \\`
  and `\uXXXX`, `\UXXXXXXXX` naming a Unicode scalar value) and refuses control characters
  other than the tab; a literal string `'...'` is taken as written. Their multi-line forms
  between three quotes also take line feeds, drop a line feed right after the opening
  quotes, and in the basic form a backslash at the end of a line joins it to the next
  non-blank text. One or two quotes right before the closing ones belong to the string.
* An integer is decimal, with an optional sign, or hexadecimal, octal or binary after
  `0x`, `0o` or `0b`. A float has a fraction or an exponent, and becomes the nearest
  binary64 number. Single underscores may stand between digits. `inf` and `nan`, with an
  optional sign, are the special floats.
* A date, a date with a time (and an optional offset) or a time alone becomes its ISO text,
  as in `1979-05-27`, `1979-05-27T07:32:00-08:00` and `07:32:00.5`, with the fraction kept
  to microseconds and printed as six digits when it is not zero. A date must exist in the
  proleptic Gregorian calendar, from year 1.

Each reader takes the input at the value and returns what it read and the rest, as a
step.
-/

set_option autoImplicit false

namespace JsonPath.Toml

/-! ## Characters -/

/-- An ASCII control character: below the space, or delete. -/
def isControl (c : Char) : Bool := c.toNat < 32 || c.toNat = 127

/-- A character a one-line string or a comment refuses: a control character but the tab. -/
def isIllegal (c : Char) : Bool := isControl c && c != '\t'

/-- A character a multi-line string refuses: a control character but the tab and the line
feed. -/
def isIllegalMultiline (c : Char) : Bool := isIllegal c && c != '\n'

/-- Space or tab. -/
def isBlank (c : Char) : Bool := c = ' ' || c = '\t'

/-- Space, tab or line feed. -/
def isBlankOrNewline (c : Char) : Bool := isBlank c || c = '\n'

/-- A character of a bare key: an ASCII letter or digit, `-` or `_`. -/
def isBareKeyChar (c : Char) : Bool :=
  ('a' ≤ c && c ≤ 'z') || ('A' ≤ c && c ≤ 'Z') || ('0' ≤ c && c ≤ '9') || c = '-' || c = '_'

/-- An ASCII decimal digit. -/
def isDigit (c : Char) : Bool := '0' ≤ c && c ≤ '9'

/-- The value of an ASCII hexadecimal digit. -/
def hexDigit? (c : Char) : Option Nat :=
  if '0' ≤ c ∧ c ≤ '9' then some (c.toNat - '0'.toNat)
  else if 'a' ≤ c ∧ c ≤ 'f' then some (c.toNat - 'a'.toNat + 10)
  else if 'A' ≤ c ∧ c ≤ 'F' then some (c.toNat - 'A'.toNat + 10)
  else none

/-- The number written by digits in a base, underscores skipped. -/
def digitsIn (base : Nat) (ds : List Char) : Nat :=
  ds.foldl (fun n d => match hexDigit? d with
    | some v => base * n + v
    | none => n) 0

/-! ## Scanning -/

/-- The text before the first occurrence of `pat`, and the rest from there (empty when it
does not occur). -/
def splitAtFirst (pat : List Char) : List Char → List Char × List Char
  | [] => ([], [])
  | c :: cs =>
    if pat.isPrefixOf (c :: cs) then ([], c :: cs)
    else
      let (before, found) := splitAtFirst pat cs
      (c :: before, found)

/-- The text up to the first `expect`, and the rest from there. The end of the input
instead of `expect` refuses when `eofFails`; a refused character before it refuses at the
first such character. -/
def skipUntil (expect : List Char) (refused : Char → Bool) (eofFails : Bool)
    (cs : List Char) : Except Failure (List Char × List Char) :=
  let (before, found) := splitAtFirst expect cs
  if eofFails && found.isEmpty then
    .error (.of ("Expected " ++ Text.quote (String.ofList expect)) [])
  else
    match before.find? refused with
    | some c =>
      .error (.of ("Found invalid character " ++ Text.quote c.toString)
        (cs.drop (before.takeWhile (fun d => !refused d)).length))
    | none => .ok (before, found)

/-- Skips a comment, if one starts here, up to the line feed that ends it. -/
def skipComment (cs : List Char) : Except Failure (List Char) :=
  match cs with
  | '#' :: rest => do
    let (_, found) ← skipUntil ['\n'] isIllegal false rest
    pure found
  | _ => .ok cs

/-- Skips blanks, line feeds and comments, as between the items of an array. -/
def skipArrayBlanks (cs : List Char) : Except Failure (List Char) :=
  go cs.length cs
where
  /-- One round of blanks and one comment, as long as something was skipped. -/
  go : Nat → List Char → Except Failure (List Char)
    | 0, cs => .ok cs
    | fuel + 1, cs => do
      let after ← skipComment (cs.dropWhile isBlankOrNewline)
      if after.length = cs.length then pure cs else go fuel after

/-! ## Strings -/

/-- The character of a simple escape, by the letter after the backslash. -/
def simpleEscape? : Char → Option Char
  | 'b' => some '\x08'
  | 't' => some '\t'
  | 'n' => some '\n'
  | 'f' => some '\x0c'
  | 'r' => some '\r'
  | '"' => some '"'
  | '\\' => some '\\'
  | _ => none

/-- The message of a backslash that starts no escape. -/
def unescapedMessage : String := "Unescaped '\\' in a string"

/-- Reads `width` hexadecimal digits naming a Unicode scalar value. -/
def hexChar (width : Nat) (cs : List Char) : Except Failure (Char × List Char) :=
  let ds := cs.take width
  if ds.length = width && ds.all fun d => (hexDigit? d).isSome then
    let n := digitsIn 16 ds
    let rest := cs.drop width
    if n < 0xD800 || (0xE000 ≤ n && n ≤ 0x10FFFF) then .ok (Char.ofNat n, rest)
    else .error (.of "Escaped character is not a Unicode scalar value" rest)
  else .error (.of "Invalid hex value" cs)

/-- Reads an escape at a backslash, giving the text it stands for. In a multi-line string a
backslash before blanks and a line feed stands for nothing, and so do the blanks and line
feeds after it. -/
def escape (multiline : Bool) (cs : List Char) : Except Failure (String × List Char) :=
  let after := cs.drop 2
  match cs.drop 1 with
  | c :: _ =>
    if multiline && (c = ' ' || c = '\t' || c = '\n') then
      if c = '\n' then .ok ("", after.dropWhile isBlankOrNewline)
      else
        match after.dropWhile isBlank with
        | [] => .ok ("", [])
        | '\n' :: rest => .ok ("", rest.dropWhile isBlankOrNewline)
        | rest => .error (.of unescapedMessage rest)
    else if c = 'u' then (hexChar 4 after).map fun (ch, r) => (ch.toString, r)
    else if c = 'U' then (hexChar 8 after).map fun (ch, r) => (ch.toString, r)
    else match simpleEscape? c with
      | some ch => .ok (ch.toString, after)
      | none => .error (.of unescapedMessage after)
  | [] => .error (.of unescapedMessage after)

/-- Reads the body of a basic string after its opening quote or quotes, up to and past the
closing ones. -/
def basicBody (multiline : Bool) (cs : List Char) : Except Failure (String × List Char) :=
  go cs.length "" cs
where
  /-- Reads on with `acc` read so far. -/
  go : Nat → String → List Char → Except Failure (String × List Char)
    | 0, _, cs => .error (.of "Unterminated string" cs)
    | _, _, [] => .error (.of "Unterminated string" [])
    | fuel + 1, acc, c :: rest =>
      if c = '"' then
        if !multiline then .ok (acc, rest)
        else if ['"', '"'].isPrefixOf rest then .ok (acc, rest.drop 2)
        else go fuel (acc.push c) rest
      else if c = '\\' then
        match escape multiline (c :: rest) with
        | .ok (s, after) => go fuel (acc ++ s) after
        | .error e => .error e
      else if (if multiline then isIllegalMultiline c else isIllegal c) then
        .error (.of ("Illegal character " ++ Text.quote c.toString) (c :: rest))
      else go fuel (acc.push c) rest

/-- Reads a one-line literal string after its opening quote. -/
def literalBody (cs : List Char) : Except Failure (String × List Char) := do
  let (body, found) ← skipUntil ['\''] isIllegal true cs
  pure (String.ofList body, found.drop 1)

/-- Reads a multi-line string at its three opening quotes (`'` for a literal one). -/
def multilineString (literal : Bool) (cs : List Char) : Except Failure (String × List Char) := do
  let start := match cs.drop 3 with
    | '\n' :: rest => rest
    | rest => rest
  let delim := if literal then '\'' else '"'
  let (body, rest) ← if literal then do
      let (body, found) ← skipUntil ['\'', '\'', '\''] isIllegalMultiline true start
      pure (String.ofList body, found.drop 3)
    else basicBody true start
  match rest with
  | d :: e :: after =>
    if d = delim && e = delim then pure ((body.push d).push e, after)
    else if d = delim then pure (body.push d, e :: after)
    else pure (body, rest)
  | [d] => if d = delim then pure (body.push d, []) else pure (body, rest)
  | [] => pure (body, rest)

/-! ## Numbers -/

/-- Digits that may have single underscores between them, after a first digit already
taken: the digits and underscores read, and the rest. -/
def underscoredDigits (digit : Char → Bool) : List Char → List Char × List Char
  | [] => ([], [])
  | c :: rest =>
    if digit c then
      let (more, after) := underscoredDigits digit rest
      (c :: more, after)
    else if c = '_' then
      match rest with
      | d :: rest' =>
        if digit d then
          let (more, after) := underscoredDigits digit rest'
          ('_' :: d :: more, after)
        else ([], c :: rest)
      | [] => ([], [c])
    else ([], c :: rest)

/-- A run that starts with a digit and goes on with underscored digits. -/
def digitRun (digit : Char → Bool) : List Char → Option (List Char × List Char)
  | d :: rest =>
    if digit d then
      let (more, after) := underscoredDigits digit rest
      some (d :: more, after)
    else none
  | [] => none

/-- An integer after `0x`, `0o` or `0b`. -/
def prefixedInteger? : List Char → Option (Value × List Char)
  | '0' :: b :: rest =>
    let base? : Option (Nat × (Char → Bool)) :=
      if b = 'x' then some (16, fun c => (hexDigit? c).isSome)
      else if b = 'o' then some (8, fun c => '0' ≤ c && c ≤ '7')
      else if b = 'b' then some (2, fun c => c = '0' || c = '1')
      else none
    match base? with
    | some (base, digit) => (digitRun digit rest).map fun (ds, after) =>
        (.num (.int (digitsIn base (ds.filter (· != '_')))), after)
    | none => none
  | _ => none

/-- A decimal integer or a float: an optional sign, `0` or digits not starting with `0`,
then an optional fraction and an optional exponent. -/
def decimalNumber? (cs : List Char) : Option (Value × List Char) :=
  let (neg, body) := match cs with
    | '-' :: b => (true, b)
    | '+' :: b => (false, b)
    | b => (false, b)
  let whole? := match body with
    | '0' :: rest => some (['0'], rest)
    | _ => digitRun isDigit body
  whole?.map fun (whole, rest) =>
    let (fraction, rest) := match rest with
      | '.' :: more => match digitRun isDigit more with
        | some (ds, after) => (some ds, after)
        | none => (none, rest)
      | _ => (none, rest)
    let (exponent, rest) := match rest with
      | e :: more =>
        if e = 'e' || e = 'E' then
          let (eneg, digits) := match more with
            | '-' :: d => (true, d)
            | '+' :: d => (false, d)
            | d => (false, d)
          match digitRun isDigit digits with
          | some (ds, after) =>
            let n : Int := digitsIn 10 (ds.filter (· != '_'))
            (some (if eneg then -n else n), after)
          | none => (none, rest)
        else (none, rest)
      | [] => (none, rest)
    let plain (ds : List Char) := ds.filter (· != '_')
    (.num (Number.numberOfParts neg (plain whole) (fraction.map plain) exponent), rest)

/-- The special floats, with their texts. -/
def specialFloats : List (String × Binary64) :=
  [("inf", Binary64.infinity false), ("nan", Binary64.nan),
   ("+inf", Binary64.infinity false), ("-inf", Binary64.infinity true),
   ("+nan", Binary64.nan), ("-nan", Binary64.nan.negate)]

/-- The special float at the front of the input. -/
def specialFloat? (cs : List Char) : Option (Value × List Char) :=
  specialFloats.findSome? fun (text, x) =>
    if text.toList.isPrefixOf cs then some (.num (.float x), cs.drop text.length) else none

/-! ## Dates and times -/

/-- Two digits whose value passes a test. -/
def twoDigits? (ok : Nat → Bool) : List Char → Option (Nat × List Char)
  | a :: b :: rest =>
    if isDigit a && isDigit b then
      let n := digitsIn 10 [a, b]
      if ok n then some (n, rest) else none
    else none
  | _ => none

/-- A character that passes a test, at the front of the input. -/
def charIf? (ok : Char → Bool) : List Char → Option (Char × List Char)
  | c :: rest => if ok c then some (c, rest) else none
  | [] => none

/-- A time of day with microseconds. -/
structure Clock where
  hour : Nat
  minute : Nat
  second : Nat
  micros : Nat
deriving DecidableEq, Repr

/-- A number with at least two digits. -/
def pad2 (n : Nat) : String := if n < 10 then "0" ++ toString n else toString n

/-- A number written with at least `width` digits, zeros first. -/
def padded (width n : Nat) : String :=
  let s := toString n
  String.ofList (List.replicate (width - s.length) '0') ++ s

/-- The ISO text of a time: `HH:MM:SS`, and `.ffffff` when there are microseconds. -/
def Clock.render (t : Clock) : String :=
  pad2 t.hour ++ ":" ++ pad2 t.minute ++ ":" ++ pad2 t.second ++
    (if t.micros = 0 then "" else "." ++ padded 6 t.micros)

/-- A time `HH:MM:SS` with an optional fraction, of which six digits are kept. -/
def clock? (cs : List Char) : Option (Clock × List Char) := do
  let (h, cs) ← twoDigits? (· < 24) cs
  let (_, cs) ← charIf? (· = ':') cs
  let (m, cs) ← twoDigits? (· < 60) cs
  let (_, cs) ← charIf? (· = ':') cs
  let (s, cs) ← twoDigits? (· < 60) cs
  match cs with
  | '.' :: d :: rest =>
    if isDigit d then
      let ds := (d :: rest).takeWhile isDigit
      let kept := ds.take 6
      let micros := digitsIn 10 kept * Nat.pow 10 (6 - kept.length)
      pure (⟨h, m, s, micros⟩, (d :: rest).drop ds.length)
    else pure (⟨h, m, s, 0⟩, cs)
  | _ => pure (⟨h, m, s, 0⟩, cs)

/-- An offset from UTC: `Z`, or a sign with hours and minutes. -/
def offset? : List Char → Option (Int × List Char)
  | c :: rest =>
    if c = 'Z' || c = 'z' then some (0, rest)
    else if c = '+' || c = '-' then do
      let (h, cs) ← twoDigits? (· < 24) rest
      let (_, cs) ← charIf? (· = ':') cs
      let (m, cs) ← twoDigits? (· < 60) cs
      let minutes : Int := h * 60 + m
      pure (if c = '-' then -minutes else minutes, cs)
    else none
  | [] => none

/-- The ISO text of an offset in minutes: `+HH:MM` or `-HH:MM`. -/
def renderOffset (minutes : Int) : String :=
  let sign := if minutes < 0 then "-" else "+"
  let m := minutes.natAbs
  sign ++ pad2 (m / 60) ++ ":" ++ pad2 (m % 60)

/-- Whether a year of the Gregorian calendar has a 29th of February. -/
def isLeapYear (y : Nat) : Bool := y % 4 = 0 && (y % 100 != 0 || y % 400 = 0)

/-- The number of days of a month. -/
def daysInMonth (y m : Nat) : Nat :=
  if m = 2 then (if isLeapYear y then 29 else 28)
  else if m = 4 || m = 6 || m = 9 || m = 11 then 30
  else 31

/-- A date written as `YYYY-MM-DD`, with a month and a day of the month in range (the day
not yet checked against the month). -/
def calendarDate? (cs : List Char) : Option ((Nat × Nat × Nat) × List Char) := do
  let ys := cs.take 4
  if !(ys.length = 4 && ys.all isDigit) then none
  let (_, cs) ← charIf? (· = '-') (cs.drop 4)
  let (m, cs) ← twoDigits? (fun n => 1 ≤ n && n ≤ 12) cs
  let (_, cs) ← charIf? (· = '-') cs
  let (d, cs) ← twoDigits? (fun n => 1 ≤ n && n ≤ 31) cs
  pure ((digitsIn 10 ys, m, d), cs)

/-- A date, or a date and time with an optional offset, at the front of the input: its ISO
text (or `none` when the day does not exist), and the rest. -/
def dateTime? (cs : List Char) : Option (Option String × List Char) := do
  let ((y, m, d), rest) ← calendarDate? cs
  let valid := 1 ≤ y && d ≤ daysInMonth y m
  let date := padded 4 y ++ "-" ++ pad2 m ++ "-" ++ pad2 d
  let timed : Option (String × List Char) := do
    let (_, cs) ← charIf? (fun c => c = 'T' || c = 't' || c = ' ') rest
    let (t, cs) ← clock? cs
    match offset? cs with
    | some (o, cs) => pure (date ++ "T" ++ t.render ++ renderOffset o, cs)
    | none => pure (date ++ "T" ++ t.render, cs)
  match timed with
  | some (text, after) => pure (if valid then some text else none, after)
  | none => pure (if valid then some date else none, rest)

end JsonPath.Toml
