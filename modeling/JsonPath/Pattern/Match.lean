import JsonPath.Pattern.Classes
import JsonPath.Pattern.Reader

/-!
# Matching patterns

A match is searched for by backtracking. `Node.run` matches a node at a cursor and hands
each way it can end to a continuation, in the order of preference of the node, until the
continuation accepts one. Alternatives are tried in order; a greedy repetition tries one
more pass before stopping, a lazy one stops before trying one more, and a possessive one
takes as many passes as it can and never gives one back. A pass that matched nothing ends
the optional passes of a repetition, so repeating an empty match cannot go on forever.
An atomic group and a look-around keep only the first way their body matches.

The cursor holds the marks of the groups, where each began and ended; a group has matched
when both marks are set and the start is not after the end. A mark set while matching a
branch that failed is forgotten with it.

`Compiled.fullMatches` asks for a match of the whole text, and `Compiled.searches` for a
match that starts anywhere. The search is bounded by fuel computed from the pattern and
the text, which no match within the bound can exhaust.
-/

set_option autoImplicit false

namespace JsonPath.Pattern

/-- Where a match stands: a position in the text and the marks of the groups, two for
each: where it began and where it ended. -/
structure Cursor where
  pos : Nat
  marks : Array (Option Nat)

namespace Cursor

/-- Set mark `i` at the current position. -/
def mark (cur : Cursor) (i : Nat) : Cursor :=
  { cur with marks := cur.marks.setIfInBounds i (some cur.pos) }

/-- The part of the text group `g` matched, when it has matched. -/
def span? (cur : Cursor) (g : Nat) : Option (Nat × Nat) :=
  match cur.marks[2 * (g - 1)]?, cur.marks[2 * (g - 1) + 1]? with
  | some (some s), some (some e) => if s ≤ e then some (s, e) else none
  | _, _ => none

end Cursor

/-- Whether an anchor accepts a position of the text. -/
def Anchor.holds (t : Array Char) (pos : Nat) : Anchor → Bool
  | .textStart => pos = 0
  | .lineStart => pos = 0 || t[pos - 1]? == some '\n'
  | .textEnd => pos = t.size
  | .finalLineEnd => pos = t.size || (pos + 1 = t.size && t[pos]? == some '\n')
  | .lineEnd => pos = t.size || t[pos]? == some '\n'
  | .boundary ascii => t.size ≠ 0 && wordAround t pos ascii
  | .nonBoundary ascii => t.size ≠ 0 && !wordAround t pos ascii
where
  /-- Whether the characters before and at a position differ in being word characters. -/
  wordAround (t : Array Char) (pos : Nat) (ascii : Bool) : Bool :=
    let before := pos > 0 && (t[pos - 1]?.map (isWordChar ascii)).getD false
    let here := (t[pos]?.map (isWordChar ascii)).getD false
    before != here

/-- Where a repeat of the text from `s` to `e` ends when it starts at `pos`, if the text
there is the same under a casing. -/
def repeatEnd? (t : Array Char) (casing : Casing) (s e pos : Nat) : Option Nat :=
  let n := e - s
  let again := (t.extract s e).toList
  let here := (t.extract pos (pos + n)).toList
  if here.length = n && (again.zip here).all fun (a, b) => sameUnder casing a b then
    some (pos + n)
  else none

/-- Take one character that passes a test, then go on. -/
def stepIf (t : Array Char) (cur : Cursor) (k : Cursor → Option Cursor)
    (test : Char → Bool) : Option Cursor :=
  match t[cur.pos]? with
  | some c => if test c then k { cur with pos := cur.pos + 1 } else none
  | none => none

mutual
/-- Match `node` at the cursor, then the continuation `k`: the first end the continuation
accepts, trying the ways the node can match in order of preference. -/
def Node.run (t : Array Char) : Nat → Node → Cursor → (Cursor → Option Cursor) → Option Cursor
  | 0, _, _, _ => none
  | fuel + 1, node, cur, k =>
    match node with
    | .char code casing => stepIf t cur k (literalHolds casing code)
    | .notChar code casing => stepIf t cur k fun c => !literalHolds casing code c
    | .any dotAll => stepIf t cur k fun c => dotAll || c != '\n'
    | .set negated members casing ascii => stepIf t cur k (setHolds negated members casing ascii)
    | .anchor a => if a.holds t cur.pos then k cur else none
    | .seq [] => k cur
    | .seq (n :: rest) => Node.run t fuel n cur fun c => Node.run t fuel (.seq rest) c k
    | .alt [] => none
    | .alt (b :: bs) =>
      match Node.run t fuel b cur k with
      | some r => some r
      | none => Node.run t fuel (.alt bs) cur k
    | .quantified body lo hi greed => Node.repeatFrom t fuel body lo hi greed 0 none cur k
    | .group g body =>
      Node.run t fuel body (cur.mark (2 * (g - 1))) fun c => k (c.mark (2 * (g - 1) + 1))
    | .atomic body =>
      match Node.run t fuel body cur some with
      | some c => k c
      | none => none
    | .backref g casing =>
      match cur.span? g with
      | some (s, e) =>
        match repeatEnd? t casing s e cur.pos with
        | some p => k { cur with pos := p }
        | none => none
      | none => none
    | .look behind negated width body =>
      let start? := if behind then (if width ≤ cur.pos then some (cur.pos - width) else none)
        else some cur.pos
      let found := match start? with
        | some p => Node.run t fuel body { cur with pos := p } some
        | none => none
      match found, negated with
      | some c, false => k { c with pos := cur.pos }
      | none, true => k cur
      | _, _ => none
    | .cond g yes no =>
      if (cur.span? g).isSome then Node.run t fuel yes cur k else Node.run t fuel no cur k

/-- Go on with a repetition of `body` after `count` passes, the last optional one begun at
`last`. Passes below `lo` are required; another pass is optional below `hi` and only when
the last optional pass did not begin here. -/
def Node.repeatFrom (t : Array Char) : Nat → Node → Nat → Option Nat → Greed → Nat →
    Option Nat → Cursor → (Cursor → Option Cursor) → Option Cursor
  | 0, _, _, _, _, _, _, _, _ => none
  | fuel + 1, body, lo, hi, greed, count, last, cur, k =>
    let again := (match hi with
      | some h => count < h
      | none => true) && last != some cur.pos
    match greed with
    | .greedy =>
      if count < lo then
        Node.run t fuel body cur fun c => Node.repeatFrom t fuel body lo hi greed (count + 1) last c k
      else
        let more := if again then
            Node.run t fuel body cur fun c =>
              Node.repeatFrom t fuel body lo hi greed (count + 1) (some cur.pos) c k
          else none
        match more with
        | some r => some r
        | none => k cur
    | .lazy =>
      if count < lo then
        Node.run t fuel body cur fun c => Node.repeatFrom t fuel body lo hi greed (count + 1) last c k
      else
        match k cur with
        | some r => some r
        | none =>
          if again then
            Node.run t fuel body cur fun c =>
              Node.repeatFrom t fuel body lo hi greed (count + 1) (some cur.pos) c k
          else none
    | .possessive =>
      if count < lo then
        match Node.run t fuel body cur some with
        | some c => Node.repeatFrom t fuel body lo hi greed (count + 1) last c k
        | none => none
      else if again then
        match Node.run t fuel body cur some with
        | some c => Node.repeatFrom t fuel body lo hi greed (count + 1) (some cur.pos) c k
        | none => k cur
      else k cur
end

namespace Compiled

/-- The fuel for matching a text of `n` characters. -/
def fuelFor (p : Compiled) (n : Nat) : Nat := (p.root.size + 2) * (n + 2) * (p.root.demand + 2)

/-- A cursor at a position with no group marked. -/
def start (p : Compiled) (pos : Nat) : Cursor := ⟨pos, Array.replicate (2 * p.groups) none⟩

/-- Whether the pattern matches the whole text. -/
def fullMatches (p : Compiled) (text : String) : Bool :=
  let t := text.toList.toArray
  let whole (c : Cursor) : Option Cursor := if c.pos = t.size then some c else none
  (Node.run t (p.fuelFor t.size) p.root (p.start 0) whole).isSome

/-- Whether the pattern matches a part of the text. -/
def searches (p : Compiled) (text : String) : Bool :=
  let t := text.toList.toArray
  (List.range (t.size + 1)).any fun i => (Node.run t (p.fuelFor t.size) p.root (p.start i) some).isSome

end Compiled

end JsonPath.Pattern
