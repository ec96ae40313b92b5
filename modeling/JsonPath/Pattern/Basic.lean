/-!
# Regular expression patterns

A pattern is a tree of nodes. Leaves test one character (a literal, any character, a
bracketed set), test a position (an anchor), or compare with the text of an earlier group
(a back reference). Inner nodes put patterns in sequence, offer alternatives, repeat a
pattern, capture what it matched as a numbered group, commit to its first match (an atomic
group), look ahead or behind without consuming, or choose between two patterns by whether
a group has matched.

The flags in force where a leaf was written are resolved into the leaf when the pattern is
read: a literal knows how it compares letters, a set knows whether its classes are the
ASCII ones, `.` knows whether it takes line feeds, and an anchor knows whether it looks at
lines or at the whole text. Matching then needs no flags.

`Node.width` gives the least and greatest number of characters a node can match, which is
what decides whether a look-behind is acceptable (its width must be fixed).
-/

set_option autoImplicit false

namespace JsonPath.Pattern

/-- How letters compare: exactly, equal up to ASCII case, or equal up to Unicode case. -/
inductive Casing where
  | exact
  | ascii
  | unicode
deriving DecidableEq, Repr, Inhabited

/-- A class of characters named by an escape: `\d`, `\s` or `\w`. -/
inductive Category where
  | digit
  | space
  | word
deriving DecidableEq, Repr, Inhabited

/-- One member of a bracketed set, over code points. -/
inductive Member where
  | char (code : Nat)
  | range (first last : Nat)
  /-- A class, or with `negated` the characters outside it (`\D`, `\S`, `\W`). -/
  | category (cat : Category) (negated : Bool)
deriving DecidableEq, Repr, Inhabited

/-- The positions an anchor accepts. -/
inductive Anchor where
  /-- The start of the text (`\A`, and `^` outside multi-line mode). -/
  | textStart
  /-- The start of the text or just after a line feed (`^` in multi-line mode). -/
  | lineStart
  /-- The end of the text (`\Z`). -/
  | textEnd
  /-- The end of the text or just before a final line feed (`$`). -/
  | finalLineEnd
  /-- The end of the text or just before any line feed (`$` in multi-line mode). -/
  | lineEnd
  /-- A change between a word character and another (`\b`); `ascii` picks the ASCII word
  characters. -/
  | boundary (ascii : Bool)
  /-- No change between word and other characters (`\B`). -/
  | nonBoundary (ascii : Bool)
deriving DecidableEq, Repr, Inhabited

/-- How a repetition chooses its count: as many as possible and then fewer, as few as
possible and then more, or as many as possible and never fewer. -/
inductive Greed where
  | greedy
  | lazy
  | possessive
deriving DecidableEq, Repr, Inhabited

/-- A pattern. Characters are code points, so that escapes of surrogates, which no text
holds, are still patterns. -/
inductive Node where
  /-- One character equal to `code` under `casing`. -/
  | char (code : Nat) (casing : Casing)
  /-- One character not equal to `code` under `casing`. -/
  | notChar (code : Nat) (casing : Casing)
  /-- Any one character; a line feed only when `dotAll`. -/
  | any (dotAll : Bool)
  /-- One character in the set (outside it, when `negated`); `ascii` picks the ASCII
  classes. -/
  | set (negated : Bool) (members : List Member) (casing : Casing) (ascii : Bool)
  | anchor (a : Anchor)
  | seq (items : List Node)
  /-- The first branch that leads to a match. -/
  | alt (branches : List Node)
  /-- `body` between `min` and `max` times (`none`: no upper bound). -/
  | quantified (body : Node) (min : Nat) (max : Option Nat) (greed : Greed)
  /-- `body`, remembered as group `index` (from 1). -/
  | group (index : Nat) (body : Node)
  /-- The first match of `body`, never revisited. -/
  | atomic (body : Node)
  /-- The text of group `index` again, compared under `casing`. -/
  | backref (index : Nat) (casing : Casing)
  /-- Whether `body` matches just after (or, `behind`, just before, over `width`
  characters) the position, or with `negated` that it does not. -/
  | look (behind negated : Bool) (width : Nat) (body : Node)
  /-- `yes` when group `index` has matched, `no` otherwise. -/
  | cond (index : Nat) (yes no : Node)
deriving Repr, Inhabited

/-! ## Width -/

/-- The width that stands for "no bound": greater than any count a pattern can write. -/
def unboundedWidth : Nat := Nat.pow 2 64

/-- A width pair clamped to `unboundedWidth`. -/
def clampWidth (w : Nat × Nat) : Nat × Nat := (min w.1 unboundedWidth, min w.2 unboundedWidth)

mutual
/-- The least and greatest number of characters a node matches; `groupWidth` gives the width
of each group that a back reference repeats. Look-arounds and anchors take no width. -/
def Node.width (groupWidth : Nat → Nat × Nat) : Node → Nat × Nat
  | .char _ _ | .notChar _ _ | .any _ | .set _ _ _ _ => (1, 1)
  | .anchor _ | .look _ _ _ _ => (0, 0)
  | .seq items => Node.widthSeq groupWidth items
  | .alt branches => Node.widthAlt groupWidth branches
  | .quantified body lo hi _ =>
    let (i, j) := body.width groupWidth
    clampWidth (i * lo, match hi with
      | some h => j * h
      | none => if j = 0 then 0 else unboundedWidth)
  | .group _ body | .atomic body => body.width groupWidth
  | .backref index _ => groupWidth index
  | .cond _ yes no =>
    let (i, j) := yes.width groupWidth
    let (l, h) := no.width groupWidth
    (min i l, max j h)

/-- The width of items in sequence. -/
def Node.widthSeq (groupWidth : Nat → Nat × Nat) : List Node → Nat × Nat
  | [] => (0, 0)
  | n :: rest =>
    let (i, j) := n.width groupWidth
    let (l, h) := Node.widthSeq groupWidth rest
    clampWidth (i + l, j + h)

/-- The width of a choice between branches. -/
def Node.widthAlt (groupWidth : Nat → Nat × Nat) : List Node → Nat × Nat
  | [] => (unboundedWidth, 0)
  | n :: rest =>
    let (i, j) := n.width groupWidth
    let (l, h) := Node.widthAlt groupWidth rest
    (min i l, max j h)
end

/-! ## Size -/

mutual
/-- The number of nodes of a pattern. -/
def Node.size : Node → Nat
  | .seq items => Node.sizeList items + 1
  | .alt branches => Node.sizeList branches + 1
  | .quantified body _ _ _ | .group _ body | .atomic body | .look _ _ _ body => body.size + 1
  | .cond _ yes no => yes.size + no.size + 1
  | _ => 1

/-- The number of nodes of a list of patterns. -/
def Node.sizeList : List Node → Nat
  | [] => 0
  | n :: rest => n.size + Node.sizeList rest
end

mutual
/-- How many passes through a repeated body a pattern may demand before the text is
consulted: the least counts of repetitions, multiplied along nesting. -/
def Node.demand : Node → Nat
  | .seq items => Node.demandList items
  | .alt branches => Node.demandList branches
  | .quantified body lo _ _ => (lo + 1) * (body.demand + 1)
  | .group _ body | .atomic body | .look _ _ _ body => body.demand
  | .cond _ yes no => yes.demand + no.demand
  | _ => 0

/-- The demand of a list of patterns. -/
def Node.demandList : List Node → Nat
  | [] => 0
  | n :: rest => n.demand + Node.demandList rest
end

end JsonPath.Pattern
