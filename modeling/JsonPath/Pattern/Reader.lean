import JsonPath.Pattern.Basic
import JsonPath.Text.Identifier
import JsonPath.Text.Decimal
import JsonPath.Text.Space
import JsonPath.Text.Integer

/-!
# Reading patterns

The pattern language is a backtracking dialect of regular expressions. Its text is read as
lexemes: a character, or a backslash with the character after it. A pattern that ends in
a lone backslash is refused the moment reading reaches that end.

A pattern is an alternation of branches, a branch is a sequence of items, and an item is a
character, an escape, a bracketed set, `.`, an anchor, a group of one of the kinds opened by
`(`, or a repetition of the item before it: `*`, `+`, `?` and `{m,n}`, each greedy, lazy
(`?` after it) or possessive (`+` after it). A `{` that does not open a well-formed count
stands for itself.

Flags (`i` case, `m` lines, `s` dot takes line feeds, `x` verbose, `a` ASCII classes, `u`
Unicode classes, `t` template) are set for the whole pattern by `(?flags)` before its first
item, or for one group by `(?flags-flags:...)`. They are resolved into the leaves as they
are read (see `JsonPath.Pattern.Basic`). In verbose mode white space and `#` comments
between items are skipped.

Reading also rebuilds what the language does to alternations: a prefix shared by all
branches is taken out of them, and branches that are each one character or one set become
one set. This is visible: a set compares letters up to case differently from a literal
outside a set, for characters beyond the first 65536.

`compile` refuses a pattern (`Fault.invalid`) for everything the language calls an error,
and tells apart the two refusals the language reports otherwise: a count of repetitions of
`2^32 - 1` or more, and ASCII and Unicode classes both asked for the whole pattern.
-/

set_option autoImplicit false

namespace JsonPath.Pattern

open JsonPath.Text

/-! ## Lexemes and flags -/

/-- A unit of pattern text: a character, or a backslash and the character after it. -/
inductive Lexeme where
  | plain (c : Char)
  | escaped (c : Char)
deriving DecidableEq, Repr, Inhabited

/-- The text of a lexeme. -/
def Lexeme.text : Lexeme → String
  | .plain c => c.toString
  | .escaped c => "\\" ++ c.toString

/-- The lexemes of a pattern text, and whether it ends in a lone backslash. -/
def lexemes : List Char → List Lexeme × Bool
  | [] => ([], false)
  | ['\\'] => ([], true)
  | '\\' :: c :: rest => let (ls, cut) := lexemes rest; (.escaped c :: ls, cut)
  | c :: rest => let (ls, cut) := lexemes rest; (.plain c :: ls, cut)

/-- The flags in force: case-insensitive, multi-line, dot takes all, verbose, ASCII
classes, Unicode classes, template. -/
structure Flags where
  ignoreCase : Bool
  multiline : Bool
  dotAll : Bool
  verbose : Bool
  ascii : Bool
  unicode : Bool
  template : Bool
deriving DecidableEq, Repr, Inhabited

namespace Flags

/-- No flag. -/
def empty : Flags := ⟨false, false, false, false, false, false, false⟩

/-- Whether a character names a flag. -/
def isLetter (c : Char) : Bool := "iLmsxatu".toList.contains c

/-- A single flag, by its letter. -/
def ofLetter : Char → Flags
  | 'i' => { empty with ignoreCase := true }
  | 'm' => { empty with multiline := true }
  | 's' => { empty with dotAll := true }
  | 'x' => { empty with verbose := true }
  | 'a' => { empty with ascii := true }
  | 'u' => { empty with unicode := true }
  | 't' => { empty with template := true }
  | _ => empty

/-- The flags of either. -/
def union (f g : Flags) : Flags :=
  ⟨f.ignoreCase || g.ignoreCase, f.multiline || g.multiline, f.dotAll || g.dotAll,
    f.verbose || g.verbose, f.ascii || g.ascii, f.unicode || g.unicode,
    f.template || g.template⟩

/-- The flags of `f` that are not in `g`. -/
def remove (f g : Flags) : Flags :=
  ⟨f.ignoreCase && !g.ignoreCase, f.multiline && !g.multiline, f.dotAll && !g.dotAll,
    f.verbose && !g.verbose, f.ascii && !g.ascii, f.unicode && !g.unicode,
    f.template && !g.template⟩

/-- Whether two sets of flags share one. -/
def meets (f g : Flags) : Bool := remove f (remove f g) != empty

/-- Whether the class flags `a` or `u` are among them. -/
def hasKind (f : Flags) : Bool := f.ascii || f.unicode

/-- The flags inside a group that adds `add` and removes `del`: a class flag replaces the
class flag in force. -/
def inGroup (f add del : Flags) : Flags :=
  let base := if add.hasKind then { f with ascii := false, unicode := false } else f
  remove (union base add) del

/-- How letters compare under these flags. -/
def casing (f : Flags) : Casing :=
  if f.ignoreCase then (if f.ascii then .ascii else .unicode) else .exact

end Flags

/-- Why a pattern was refused. -/
inductive Fault where
  /-- The text is not a pattern of the language. -/
  | invalid
  /-- A count of repetitions is `2^32 - 1` or more. -/
  | countTooLarge
  /-- ASCII and Unicode classes are both asked for the whole pattern. -/
  | flagsIncompatible
deriving DecidableEq, Repr, Inhabited

/-- What a refusal says. -/
def Fault.message : Fault → String
  | .invalid => "invalid regular expression"
  | .countTooLarge => "the repetition number is too large"
  | .flagsIncompatible => "ASCII and UNICODE flags are incompatible"

/-- The class of error a refusal other than an invalid pattern is reported as: a count too
large overflows, and incompatible flags are a bad value. -/
def Fault.kind : Fault → String
  | .countTooLarge => "OverflowError"
  | _ => "ValueError"

/-- The least count of repetitions that is too large. -/
def countLimit : Nat := Nat.pow 2 32 - 1

/-- The greatest width a look-behind may have. -/
def lookBehindLimit : Nat := Nat.pow 2 32 - 1

/-! ## The reading state -/

/-- What reading has seen so far. -/
structure ReadState where
  /-- The lexemes not yet read. -/
  rest : List Lexeme
  /-- Whether the text ends in a lone backslash. -/
  cut : Bool
  /-- The flags set for the whole pattern. -/
  flags : Flags
  /-- How many groups have been opened. -/
  opened : Nat
  /-- The closed groups and their widths. -/
  widths : List (Nat × (Nat × Nat))
  /-- The named groups. -/
  names : List (String × Nat)
  /-- The number of groups opened before the outermost look-behind being read. -/
  behindFrom : Option Nat
  /-- The group numbers that conditionals test. -/
  condRefs : List Nat
  /-- Whether a repetition was read. -/
  repeated : Bool
  /-- Whether a look-behind has no fixed width, or a too great one. -/
  widthBad : Bool

/-- Reading a pattern: a state, and a refusal that ends it. -/
abbrev Read := StateT ReadState (Except Fault)

/-- Refuse the pattern. -/
def refuse {α : Type} : Read α := throw .invalid

/-- The next lexeme, if any. -/
def peek : Read (Option Lexeme) := return (← get).rest.head?

/-- Go on from the given lexemes; reaching a lone backslash at the end refuses. -/
def resume (r : List Lexeme) : Read Unit := do
  modify fun s => { s with rest := r }
  if r.isEmpty && (← get).cut then refuse

/-- Read the next lexeme. -/
def next : Read (Option Lexeme) := do
  match (← get).rest with
  | [] => pure none
  | l :: more => resume more; pure (some l)

/-- Read the next lexeme when it is `l`. -/
def accept (l : Lexeme) : Read Bool := do
  if (← peek) == some l then
    let _ ← next
    pure true
  else pure false

/-- Whether group `gid` is closed. -/
def closed (gid : Nat) : Read Bool := return ((← get).widths.lookup gid).isSome

/-- Inside a look-behind, a group may be referred to only when it was closed before the
look-behind began. -/
def checkBehind (gid : Nat) : Read Unit := do
  match (← get).behindFrom with
  | some first => if !(← closed gid) || gid ≥ first then refuse
  | none => pure ()

/-- The width of the closed groups, for `Node.width`. -/
def groupWidths : Read (Nat → Nat × Nat) := do
  let ws := (← get).widths
  pure fun g => (ws.lookup g).getD (0, 0)

/-! ## Digits and names -/

/-- The value of a digit in base 8, 10 or 16. -/
def digitValue (base : Nat) (c : Char) : Option Nat :=
  let v := if '0' ≤ c ∧ c ≤ '9' then some (c.toNat - '0'.toNat)
    else if 'a' ≤ c ∧ c ≤ 'f' then some (c.toNat - 'a'.toNat + 10)
    else if 'A' ≤ c ∧ c ≤ 'F' then some (c.toNat - 'A'.toNat + 10)
    else none
  v.filter (· < base)

/-- The value of digits in a base. -/
def digitsValue (base : Nat) (ds : List Nat) : Nat := ds.foldl (fun acc d => acc * base + d) 0

/-- Up to `n` plain digits of a base at the front of the lexemes. -/
def takeDigits (base : Nat) : Nat → List Lexeme → List Nat × List Lexeme
  | 0, ls => ([], ls)
  | n + 1, .plain c :: rest =>
    match digitValue base c with
    | some d => let (ds, r) := takeDigits base n rest; (d :: ds, r)
    | none => ([], .plain c :: rest)
  | _ + 1, ls => ([], ls)

/-- Read exactly `n` digits of a base. -/
def readDigits (base n : Nat) : Read Nat := do
  let (ds, r) := takeDigits base n (← get).rest
  if ds.length = n then
    if n > 0 then resume r
    pure (digitsValue base ds)
  else refuse

/-- Read up to `n` digits of a base. -/
def readSomeDigits (base n : Nat) : Read (List Nat) := do
  let (ds, r) := takeDigits base n (← get).rest
  if !ds.isEmpty then resume r
  pure ds

/-- The text of the lexemes before the first plain `t`, and the lexemes after it. -/
def lexemesUntil (t : Char) : List Lexeme → Option (String × List Lexeme)
  | [] => none
  | l :: rest =>
    if l == .plain t then some ("", rest)
    else (lexemesUntil t rest).map fun (s, r) => (l.text ++ s, r)

/-- Read a name up to the plain terminator `t`; the name may not be empty. -/
def readName (t : Char) : Read String := do
  match lexemesUntil t (← get).rest with
  | some (name, r) => if name.isEmpty then refuse else do resume r; pure name
  | none => refuse

/-- Read a group name, which must be an identifier. -/
def readGroupName (t : Char) : Read String := do
  let name ← readName t
  if isIdentifier name then pure name else refuse

/-! ## Escapes -/

/-- The code point of an escape that stands for a character both in and out of sets:
`\a \f \n \r \t \v \\` and `\xhh`, `\uhhhh`, `\Uhhhhhhhh`. -/
def codeEscape (c : Char) : Option (Read Nat) :=
  match c with
  | 'a' => some (pure 7)
  | 'f' => some (pure 12)
  | 'n' => some (pure 10)
  | 'r' => some (pure 13)
  | 't' => some (pure 9)
  | 'v' => some (pure 11)
  | '\\' => some (pure 92)
  | 'x' => some (readDigits 16 2)
  | 'u' => some (readDigits 16 4)
  | 'U' => some do
    let n ← readDigits 16 8
    if n ≤ 0x10FFFF then pure n else refuse
  -- named characters are not known
  | 'N' => some refuse
  | _ => none

/-- The class an escape names, if any. -/
def categoryEscape : Char → Option Member
  | 'd' => some (.category .digit false)
  | 'D' => some (.category .digit true)
  | 's' => some (.category .space false)
  | 'S' => some (.category .space true)
  | 'w' => some (.category .word false)
  | 'W' => some (.category .word true)
  | _ => none

/-- Whether a character is an ASCII letter. -/
def isAsciiLetter (c : Char) : Bool := ('a' ≤ c && c ≤ 'z') || ('A' ≤ c && c ≤ 'Z')

/-- The member an escape inside a set stands for. Here `\b` is a backspace and an octal
escape has up to three digits. -/
def classEscape (c : Char) : Read Member := do
  if c = 'b' then return .char 8
  match codeEscape c with
  | some read => return .char (← read)
  | none =>
  match categoryEscape c with
  | some m => return m
  | none =>
  match digitValue 8 c with
  | some d =>
    let ds ← readSomeDigits 8 2
    let n := digitsValue 8 (d :: ds)
    if n ≤ 0o377 then return .char n else refuse
  | none =>
    if c.isDigit || isAsciiLetter c then refuse else return .char c.toNat

/-- What an escape outside a set stands for: an anchor, a class, a character or a back
reference. A back reference must name a closed group. -/
def itemEscape (scope : Flags) (c : Char) : Read Node := do
  let casing := scope.casing
  match c with
  | 'A' => return .anchor .textStart
  | 'Z' => return .anchor .textEnd
  | 'b' => return .anchor (.boundary scope.ascii)
  | 'B' => return .anchor (.nonBoundary scope.ascii)
  | _ =>
  match categoryEscape c with
  | some m => return .set false [m] casing scope.ascii
  | none =>
  match codeEscape c with
  | some read => return .char (← read) casing
  | none =>
  if c = '0' then
    let ds ← readSomeDigits 8 2
    return .char (digitsValue 8 ds) casing
  match digitValue 10 c with
  | some d =>
    let gid ← do
      match (← peek) with
      | some (.plain c2) =>
        match digitValue 10 c2 with
        | some d2 =>
          let _ ← next
          let third := match (← peek) with
            | some (.plain c3) => digitValue 8 c3
            | _ => none
          match digitValue 8 c, digitValue 8 c2, third with
          | some _, some _, some d3 =>
            let _ ← next
            let n := digitsValue 8 [d, d2, d3]
            if n ≤ 0o377 then pure (Sum.inl n) else refuse
          | _, _, _ => pure (Sum.inr (d * 10 + d2))
        | none => pure (Sum.inr d)
      | _ => pure (Sum.inr d)
    match gid with
    | .inl n => return .char n casing
    | .inr g =>
      if g ≤ (← get).opened then
        if !(← closed g) then refuse
        checkBehind g
        return .backref g casing
      else refuse
  | none => if isAsciiLetter c then refuse else return .char c.toNat casing

/-! ## Sets -/

/-- The members of a list without repeats, each where it first stands. -/
def distinctMembers : List Member → List Member
  | [] => []
  | m :: rest => m :: (distinctMembers rest).filter (· != m)

/-- Read the members of a set after `[` and an optional `^`, up to the closing `]`. A `]`
first is a member, and so is a `-` that ends the set or follows a range. -/
def setMembers : Nat → List Member → Read (List Member)
  | 0, _ => refuse
  | fuel + 1, acc => do
    match ← next with
    | none => refuse
    | some this =>
      if this == .plain ']' && !acc.isEmpty then return acc
      let first ← match this with
        | .escaped c => classEscape c
        | .plain c => pure (.char c.toNat)
      if ← accept (.plain '-') then
        match ← next with
        | none => refuse
        | some (.plain ']') => return acc ++ [first, .char '-'.toNat]
        | some that =>
          let last ← match that with
            | .escaped c => classEscape c
            | .plain c => pure (.char c.toNat)
          match first, last with
          | .char lo, .char hi =>
            if hi < lo then refuse
            setMembers fuel (acc ++ [.range lo hi])
          | _, _ => refuse
      else setMembers fuel (acc ++ [first])

/-! ## Alternations -/

/-- An item of a branch while it is read: a node, or the items of a group that neither
captures nor sets flags, which join the branch when it ends. -/
inductive Piece where
  | node (n : Node)
  | inline (items : List Node)
deriving Inhabited

/-- The nodes of the pieces of a branch. -/
def Piece.flatten : List Piece → List Node
  | [] => []
  | .node n :: rest => n :: Piece.flatten rest
  | .inline items :: rest => items ++ Piece.flatten rest

/-- Whether two nodes are the same single test, so that a prefix of branches may be shared:
characters, sets, anchors and back references. -/
def Node.sameTest : Node → Node → Bool
  | .char a x, .char b y => a == b && x == y
  | .notChar a x, .notChar b y => a == b && x == y
  | .any a, .any b => a == b
  | .set a ms x p, .set b ns y q => a == b && ms == ns && x == y && p == q
  | .anchor a, .anchor b => a == b
  | .backref a x, .backref b y => a == b && x == y
  | _, _ => false

/-- The longest prefix of single tests that every branch starts with, and what is left of
each branch. -/
def sharedPrefix : Nat → List (List Node) → List Node × List (List Node)
  | 0, bs => ([], bs)
  | fuel + 1, bs =>
    match bs with
    | (n :: _) :: _ =>
      if bs.all fun b => match b with
        | m :: _ => Node.sameTest m n
        | [] => false
      then
        let (p, rest) := sharedPrefix fuel (bs.map List.tail)
        (n :: p, rest)
      else ([], bs)
    | _ => ([], bs)

/-- The members of a branch that is one character or one set that is not negated. -/
def Node.asMembers : List Node → Option (List Member)
  | [.char c _] => some [.char c]
  | [.set false ms _ _] => some ms
  | _ => none

/-- One node for the branches of an alternation: the shared prefix, then one set when
every branch left is a character or a set, else the choice between them. -/
def assemble (scope : Flags) : List (List Node) → Node
  | [b] => .seq b
  | bs =>
    let (shared, rest) := sharedPrefix (bs.foldl (fun n b => n + b.length) 0) bs
    match rest.mapM Node.asMembers with
    | some mss => .seq (shared ++ [.set false (distinctMembers mss.flatten) scope.casing scope.ascii])
    | none => .seq (shared ++ [.alt (rest.map .seq)])

/-- Whether a lexeme is white space that verbose mode skips. -/
def isVerboseBlank : Lexeme → Bool
  | .plain c => " \t\n\r\x0b\x0c".toList.contains c
  | .escaped _ => false

/-- The lexemes after a verbose comment: up to and including the next plain line feed. -/
def afterComment : List Lexeme → List Lexeme
  | [] => []
  | l :: rest => if l == .plain '\n' then rest else afterComment rest

/-- Read the flags of `(?flags)` or `(?flags-flags:`, whose first character has been read:
the flags added, and the flags removed unless the flags are for the whole pattern. -/
def readFlags (first : Char) : Read (Flags × Option Flags) := do
  let rec adds : Nat → Flags → Char → Read (Flags × Char)
    | 0, _, _ => refuse
    | fuel + 1, add, c => do
      if c = 'L' then refuse
      let flag := Flags.ofLetter c
      let add := add.union flag
      if flag.hasKind && add.ascii && add.unicode then refuse
      match ← next with
      | some (.plain c) =>
        if ")-:".toList.contains c then pure (add, c)
        else if Flags.isLetter c then adds fuel add c else refuse
      | _ => refuse
  let rec dels : Nat → Flags → Char → Read Flags
    | 0, _, _ => refuse
    | fuel + 1, del, c => do
      let flag := Flags.ofLetter c
      if c = 'L' || flag.hasKind then refuse
      let del := del.union flag
      match ← next with
      | some (.plain ':') => pure del
      | some (.plain c) => if Flags.isLetter c then dels fuel del c else refuse
      | _ => refuse
  let fuel := (← get).rest.length + 1
  let (add, stop) ← if first = '-' then pure (Flags.empty, '-') else adds fuel Flags.empty first
  if stop = ')' then return (add, none)
  if add.template then refuse
  let del ← if stop = '-' then do
      match ← next with
      | some (.plain c) => if Flags.isLetter c then dels fuel Flags.empty c else refuse
      | _ => refuse
    else pure Flags.empty
  if del.template then refuse
  if add.meets del then refuse
  return (add, some del)

/-- Read the count of a repetition whose first character `c` has been read: `none` when a
`{` does not open a well-formed count and stands for itself. -/
def repetition (c : Char) : Read (Option (Nat × Option Nat)) := do
  match c with
  | '?' => pure (some (0, some 1))
  | '*' => pure (some (0, none))
  | '+' => pure (some (1, none))
  | _ =>
    let here := (← get).rest
    if (← peek) == some (.plain '}') then return none
    let lo ← readSomeDigits 10 here.length
    let hi ← if ← accept (.plain ',') then readSomeDigits 10 here.length else pure lo
    if !(← accept (.plain '}')) then
      resume here
      return none
    let min := digitsValue 10 lo
    if min ≥ countLimit then throw .countTooLarge
    if hi.isEmpty then return some (min, none)
    let max := digitsValue 10 hi
    if max ≥ countLimit then throw .countTooLarge
    if max < min then refuse
    return some (min, some max)

mutual
/-- Read an alternation up to a `)` or the end; `top` for the whole pattern. -/
def alternation : Nat → Flags → Bool → Read Node
  | 0, _, _ => refuse
  | fuel + 1, scope, top => do
    let branches ← alternatives fuel scope top true []
    let scope ← if top then do pure (← get).flags else pure scope
    pure (assemble scope branches)

/-- Read the branches of an alternation. Branches of the whole pattern read with the flags
set for it. -/
def alternatives : Nat → Flags → Bool → Bool → List (List Node) → Read (List (List Node))
  | 0, _, _, _, _ => refuse
  | fuel + 1, scope, top, first, acc => do
    let scope ← if top then do pure (← get).flags else pure scope
    let b ← branch fuel scope (top && first) []
    if ← accept (.plain '|') then alternatives fuel scope top false (acc ++ [b])
    else pure (acc ++ [b])

/-- Read the items of a branch up to a `|`, a `)` or the end. Flags for the whole pattern
may stand only in the first branch of the whole pattern, before any item. -/
def branch : Nat → Flags → Bool → List Piece → Read (List Node)
  | 0, _, _, _ => refuse
  | fuel + 1, scope, first, pieces => do
    match ← peek with
    | none | some (.plain '|') | some (.plain ')') => pure (Piece.flatten pieces)
    | some this =>
      let _ ← next
      if scope.verbose && isVerboseBlank this then
        return ← branch fuel scope first pieces
      if scope.verbose && this == .plain '#' then
        resume (afterComment (← get).rest)
        return ← branch fuel scope first pieces
      match this with
      | .escaped c => branch fuel scope first (pieces ++ [.node (← itemEscape scope c)])
      | .plain '[' =>
        let negated ← accept (.plain '^')
        let members := distinctMembers (← setMembers ((← get).rest.length + 1) [])
        let node := match members with
          | [.char c] => if negated then .notChar c scope.casing else .char c scope.casing
          | ms => .set negated ms scope.casing scope.ascii
        branch fuel scope first (pieces ++ [.node node])
      | .plain '.' => branch fuel scope first (pieces ++ [.node (.any scope.dotAll)])
      | .plain '^' =>
        let a := if scope.multiline then Anchor.lineStart else .textStart
        branch fuel scope first (pieces ++ [.node (.anchor a)])
      | .plain '$' =>
        let a := if scope.multiline then Anchor.lineEnd else .finalLineEnd
        branch fuel scope first (pieces ++ [.node (.anchor a)])
      | .plain '(' =>
        let (piece, scope') ← group fuel scope first pieces
        branch fuel scope' first (pieces ++ piece.toList)
      | .plain c =>
        if "*+?\x7b".toList.contains c then
          match ← repetition c with
          | none => branch fuel scope first (pieces ++ [.node (.char c.toNat scope.casing)])
          | some (lo, hi) =>
            let body ← match pieces.getLast? with
              | none | some (.node (.anchor _)) | some (.node (.quantified _ _ _ _)) => refuse
              | some (.node n) => pure n
              | some (.inline items) => pure (.seq items)
            let lazy ← accept (.plain '?')
            let possessive ← if lazy then pure false else accept (.plain '+')
            let greed := if lazy then Greed.lazy else if possessive then .possessive else .greedy
            modify fun s => { s with repeated := true }
            branch fuel scope first (pieces.dropLast ++ [.node (.quantified body lo hi greed)])
        else branch fuel scope first (pieces ++ [.node (.char c.toNat scope.casing)])

/-- Read what follows a `(`: a group, a comment, flags, a look-around, a conditional or a
back reference by name. Gives the piece it adds, if any, and the flags for the rest of the
branch. -/
def group : Nat → Flags → Bool → List Piece → Read (Option Piece × Flags)
  | 0, _, _, _ => refuse
  | fuel + 1, scope, first, pieces => do
    let casing := scope.casing
    if !(← accept (.plain '?')) then
      return (some (.node (← capture fuel scope none)), scope)
    match ← next with
    | some (.plain 'P') =>
      if ← accept (.plain '<') then
        let name ← readGroupName '>'
        return (some (.node (← capture fuel scope (some name))), scope)
      else if ← accept (.plain '=') then
        let name ← readGroupName ')'
        match (← get).names.lookup name with
        | none => refuse
        | some gid =>
          if !(← closed gid) then refuse
          checkBehind gid
          return (some (.node (.backref gid casing)), scope)
      else refuse
    | some (.plain ':') =>
      let body ← alternation fuel scope false
      if !(← accept (.plain ')')) then refuse
      return (some (.inline (match body with
        | .seq items => items
        | n => [n])), scope)
    | some (.plain '#') =>
      match lexemesUntil ')' (← get).rest with
      | some (_, r) => resume r; return (none, scope)
      | none => refuse
    | some (.plain '=') => return (some (.node (← lookAhead fuel scope false)), scope)
    | some (.plain '!') => return (some (.node (← lookAhead fuel scope true)), scope)
    | some (.plain '<') =>
      match ← next with
      | some (.plain '=') => return (some (.node (← lookBehind fuel scope false)), scope)
      | some (.plain '!') => return (some (.node (← lookBehind fuel scope true)), scope)
      | _ => refuse
    | some (.plain '(') => return (some (.node (← conditional fuel scope)), scope)
    | some (.plain '>') =>
      let body ← alternation fuel scope false
      if !(← accept (.plain ')')) then refuse
      return (some (.node (.atomic body)), scope)
    | some (.plain c) =>
      if !(Flags.isLetter c || c = '-') then refuse
      match ← readFlags c with
      | (add, none) =>
        if !first || !pieces.isEmpty then refuse
        modify fun s => { s with flags := s.flags.union add }
        return (none, (← get).flags)
      | (add, some del) =>
        let body ← alternation fuel (scope.inGroup add del) false
        if !(← accept (.plain ')')) then refuse
        return (some (.node (.seq [body])), scope)
    | _ => refuse

/-- Read a capturing group after its `(` or `(?P<name>`, and close it. -/
def capture : Nat → Flags → Option String → Read Node
  | 0, _, _ => refuse
  | fuel + 1, scope, name => do
    let s ← get
    let gid := s.opened + 1
    match name with
    | some n =>
      if (s.names.lookup n).isSome then refuse
      set { s with opened := gid, names := s.names ++ [(n, gid)] }
    | none => set { s with opened := gid }
    let body ← alternation fuel scope false
    if !(← accept (.plain ')')) then refuse
    let w := body.width (← groupWidths)
    modify fun s => { s with widths := s.widths ++ [(gid, w)] }
    pure (.group gid body)

/-- Read a look-ahead after `(?=` or `(?!`. -/
def lookAhead : Nat → Flags → Bool → Read Node
  | 0, _, _ => refuse
  | fuel + 1, scope, negated => do
    let body ← alternation fuel scope false
    if !(← accept (.plain ')')) then refuse
    pure (.look false negated 0 body)

/-- Read a look-behind after `(?<=` or `(?<!`; its width must be fixed. -/
def lookBehind : Nat → Flags → Bool → Read Node
  | 0, _, _ => refuse
  | fuel + 1, scope, negated => do
    let outer := (← get).behindFrom
    if outer.isNone then
      modify fun s => { s with behindFrom := some (s.opened + 1) }
    let body ← alternation fuel scope false
    if outer.isNone then
      modify fun s => { s with behindFrom := none }
    if !(← accept (.plain ')')) then refuse
    let (lo, hi) := body.width (← groupWidths)
    if lo ≠ hi || lo > lookBehindLimit then
      modify fun s => { s with widthBad := true }
    pure (.look true negated lo body)

/-- Read a conditional after `(?(`: the group it tests, by name or number, then one or two
branches. -/
def conditional : Nat → Flags → Read Node
  | 0, _ => refuse
  | fuel + 1, scope => do
    let name ← readName ')'
    let gid ← if isIdentifier name then
        match (← get).names.lookup name with
        | some gid => pure gid
        | none => refuse
      else
        match integerOf? name with
        | some n =>
          if n ≤ 0 then refuse
          modify fun s => { s with condRefs := s.condRefs ++ [n.toNat] }
          pure n.toNat
        | none => refuse
    checkBehind gid
    let yes ← branch fuel scope false []
    let no ← if ← accept (.plain '|') then do
        let no ← branch fuel scope false []
        if (← peek) == some (.plain '|') then refuse
        pure no
      else pure []
    if !(← accept (.plain ')')) then refuse
    pure (.cond gid (.seq yes) (.seq no))
end

/-! ## Compiling -/

/-- A pattern that was read, with the number of its groups. -/
structure Compiled where
  root : Node
  groups : Nat

/-- Read a pattern text. After the whole text is read, the flags of the whole pattern may
not ask for both ASCII and Unicode classes; then no `)` may be left over, a conditional may
test only a group that exists, a template pattern may not repeat, and every look-behind must
have a fixed width. -/
def compile (text : String) : Except Fault Compiled := do
  let (ls, cut) := lexemes text.toList
  if ls.isEmpty && cut then throw .invalid
  let start : ReadState := ⟨ls, cut, Flags.empty, 0, [], [], none, [], false, false⟩
  let (root, s) ← (alternation (4 * ls.length + 8) Flags.empty true).run start
  if s.flags.ascii && s.flags.unicode then throw .flagsIncompatible
  if !s.rest.isEmpty then throw .invalid
  if s.condRefs.any (· > s.opened) then throw .invalid
  if s.flags.template && s.repeated then throw .invalid
  if s.widthBad then throw .invalid
  pure ⟨root, s.opened⟩

end JsonPath.Pattern
