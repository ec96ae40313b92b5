import JsonPath.Text.Alphanumeric
import JsonPath.Text.Decimal
import JsonPath.Text.Space

/-!
# Wrapping text

Help texts are filled into lines of a given width. The text is cut into chunks: runs of
blanks, and words. A word ends before a blank or the end of the text, after a hyphen that
joins two words of letters (`github-dark` is `github-` and `dark`), or before a dash of two
or more hyphens that leads to another word. Lines are then filled greedily with chunks; the
blanks at the start of a line (other than the first) and at its end are dropped, and a
chunk longer than a whole line is cut at the width.

`fillParagraphs` first splits the text into paragraphs at empty lines. The lines of a
paragraph are joined with single spaces, the paragraph keeps the indentation of its first
line, and a paragraph whose first line is a backspace character alone keeps its lines as
they are.
-/

set_option autoImplicit false

namespace JsonPath.Text

/-! ## Chunks -/

/-- The blanks that separate chunks: tab, line feed, vertical tab, form feed, carriage
return and space. -/
def isWrapBlank (c : Char) : Bool :=
  c = '\t' || c = '\n' || c = '\x0b' || c = '\x0c' || c = '\r' || c = ' '

/-- A word character: alphanumeric or the underscore. -/
def isWordChar (c : Char) : Bool := isAlphanumeric c || c = '_'

/-- A letter for hyphenation: a word character that is not a decimal digit. -/
def isWordLetter (c : Char) : Bool := isWordChar c && !isDecimal c

/-- A character that may end a word before a dash: a word character or one of
`!"'&.,?`. -/
def isWordPunct (c : Char) : Bool := isWordChar c || "!\"'&.,?".contains c

section
variable (t : Array Char)

/-- Whether the character at a position passes a test. -/
def charIs (test : Char → Bool) (i : Nat) : Bool := (t[i]?.map test).getD false

/-- The number of hyphens from a position on. -/
def hyphensFrom (i : Nat) : Nat := ((t.toList.drop i).takeWhile (· = '-')).length

/-- Whether a dash of two or more hyphens starts at `i` and a word character follows it. -/
def dashAt (i : Nat) : Bool :=
  let d := hyphensFrom t i
  2 ≤ d && charIs t isWordChar (i + d)

/-- Whether the hyphen at `e` joins two words: two letters (or a letter, a hyphen and a
letter) before it, and a letter, an optional hyphen and a letter after it. -/
def joiningHyphen (e : Nat) : Bool :=
  let letter := charIs t isWordLetter
  charIs t (· = '-') e &&
  ((2 ≤ e && letter (e - 2) && letter (e - 1)) ||
   (3 ≤ e && letter (e - 3) && charIs t (· = '-') (e - 2) && letter (e - 1))) &&
  letter (e + 1) && (letter (e + 2) || (charIs t (· = '-') (e + 2) && letter (e + 3)))

/-- Where the word that started before `e` ends, trying `e` and the positions after it. -/
def wordEnd : Nat → Nat → Nat
  | 0, e => e
  | fuel + 1, e =>
    if joiningHyphen t e then e + 1
    else if t.size ≤ e || charIs t isWrapBlank e then e
    else if charIs t isWordPunct (e - 1) && dashAt t e then e
    else wordEnd fuel (e + 1)

/-- Where the chunk that starts at `pos` ends. -/
def chunkEnd (pos : Nat) : Nat :=
  if charIs t isWrapBlank pos then pos + ((t.toList.drop pos).takeWhile isWrapBlank).length
  else if 0 < pos && charIs t isWordPunct (pos - 1) && dashAt t pos then pos + hyphensFrom t pos
  else wordEnd t t.size (pos + 1)

/-- The chunks from a position on. -/
def chunksFrom : Nat → Nat → List String
  | 0, _ => []
  | fuel + 1, pos =>
    if t.size ≤ pos then []
    else
      let e := max (chunkEnd t pos) (pos + 1)
      String.ofList ((t.extract pos e).toList) :: chunksFrom fuel e

end

/-- The chunks of a text. -/
def chunks (text : String) : List String :=
  let t := text.toList.toArray
  chunksFrom t t.size 0

/-! ## Lines -/

/-- Whether a chunk is only white space. -/
def isBlankChunk (s : String) : Bool := s.toList.all isSpace

/-- The chunks at the front that fit in `room` characters after `used` are taken: the line
so far, the characters it takes, and the chunks left. -/
def takeFitting (room : Nat) : List String → Nat → List String → List String × Nat × List String
  | [], used, line => (line, used, [])
  | c :: cs, used, line =>
    if used + c.length ≤ room then takeFitting room cs (used + c.length) (line ++ [c])
    else (line, used, c :: cs)

/-- Fills lines of at most `width` characters with chunks, the first line starting with
`first` and the others with `next`; `lines` holds the lines filled so far. -/
def fillChunks (width : Nat) (first next : String) : Nat → List String → List String → List String
  | 0, _, lines => lines
  | _, [], lines => lines
  | fuel + 1, chunk :: rest, lines =>
    let indent := if lines.isEmpty then first else next
    let room := width - indent.length
    let pending := if !lines.isEmpty && isBlankChunk chunk then rest else chunk :: rest
    let (line, used, left) := takeFitting room pending 0 []
    let (line, left) := match left with
      | c :: cs =>
        if room < c.length then
          let cut := max (room - used) 1
          (line ++ [String.ofList (c.toList.take cut)], String.ofList (c.toList.drop cut) :: cs)
        else (line, left)
      | [] => (line, left)
    let line := match line.getLast? with
      | some c => if isBlankChunk c then line.dropLast else line
      | none => line
    let lines := if line.isEmpty then lines else lines ++ [indent ++ String.join line]
    fillChunks width first next fuel left lines

/-- The lines a text wraps into at a width, with the indentations of the first and the
following lines. -/
def wrapLines (width : Nat) (first next : String) (text : String) : List String :=
  fillChunks width first next (2 * text.length + 2) (chunks text) []

/-! ## Paragraphs -/

/-- Whether a character ends a line. -/
def isLineBreak (c : Char) : Bool :=
  c = '\n' || c = '\r' || c = '\x0b' || c = '\x0c' || c = '\x1c' || c = '\x1d' || c = '\x1e' ||
  c = '\x85' || c.toNat = 0x2028 || c.toNat = 0x2029

/-- The lines of a text: a carriage return and a line feed end one line together, and a
final line break ends the last line without starting another. -/
def splitLines (text : String) : List String :=
  go text.length text.toList []
where
  /-- Splits the rest, `acc` holding the line read so far (reversed). -/
  go : Nat → List Char → List Char → List String
    | 0, _, acc => if acc.isEmpty then [] else [String.ofList acc.reverse]
    | _, [], acc => if acc.isEmpty then [] else [String.ofList acc.reverse]
    | fuel + 1, '\r' :: '\n' :: rest, acc => String.ofList acc.reverse :: go fuel rest []
    | fuel + 1, c :: rest, acc =>
      if isLineBreak c then String.ofList acc.reverse :: go fuel rest []
      else go fuel rest (c :: acc)

/-- A text with its tabs expanded to the next multiple of eight columns; line breaks start
a new count. -/
def expandTabs (text : String) : String :=
  let step := fun (acc : List Char × Nat) (c : Char) =>
    if c = '\t' then
      let n := 8 - acc.2 % 8
      (List.replicate n ' ' ++ acc.1, acc.2 + n)
    else if c = '\n' || c = '\r' then (c :: acc.1, 0)
    else (c :: acc.1, acc.2 + 1)
  String.ofList (text.toList.foldl step ([], 0)).1.reverse

/-- A paragraph: its indentation, whether its lines are kept as they are, and its text. -/
structure Paragraph where
  indent : Nat
  raw : Bool
  text : String

/-- The paragraphs of lines, `buf` holding the lines of the current one and `indent` the
indentation of its first line. -/
def paragraphs : List String → List String → Option Nat → List Paragraph
  | [], buf, indent => flush buf indent
  | line :: rest, buf, indent =>
    if line.isEmpty then flush buf indent ++ paragraphs rest [] none
    else match indent with
      | none =>
        let stripped := String.ofList (line.toList.dropWhile isSpace)
        paragraphs rest (buf ++ [stripped]) (some (line.length - stripped.length))
      | some _ => paragraphs rest (buf ++ [line]) indent
where
  /-- The paragraph of the lines read, if any. -/
  flush (buf : List String) (indent : Option Nat) : List Paragraph :=
    match buf with
    | [] => []
    | first :: more =>
      let trimmed := ((first.toList.dropWhile isSpace).reverse.dropWhile isSpace).reverse
      if trimmed = ['\x08'] then [⟨indent.getD 0, true, "\n".intercalate more⟩]
      else [⟨indent.getD 0, false, " ".intercalate buf⟩]

/-- Fills a text into lines of at most `width` characters paragraph by paragraph, the first
line starting with `first` and the others with `next`; paragraphs are separated by an
empty line. -/
def fillParagraphs (width : Nat) (first next : String) (text : String) : String :=
  let ps := paragraphs (splitLines (expandTabs text)) [] none
  "\n\n".intercalate (ps.map fun p =>
    let pad := String.ofList (List.replicate p.indent ' ')
    if p.raw then
      "\n".intercalate ((splitLines p.text).zipIdx.map fun (line, i) =>
        (if i = 0 then first ++ pad else next ++ pad) ++ line)
    else "\n".intercalate (wrapLines width (first ++ pad) (next ++ pad) p.text))

end JsonPath.Text
