import JsonPath.Value.Basic
import JsonPath.Text.Quoted

/-!
# TOML documents under construction

A TOML document is read statement by statement into a tree of entries. Tables and arrays
stay open: a later `[table]` header, `[[array]]` header or dotted key adds to them. A key
reaches into an array through its last item, which is how the statements after an
`[[array]]` header fill the table it just appended.

Beside the tree, the reader keeps marks on keys. A key is *explicit* once a header or a
dotted key has made its table, and such a table cannot be declared again; a key is
*frozen*, with everything below it, once an inline table or an inline array was written
under it, and nothing can be added there. The tables that a dotted key makes are marked
explicit only when the next header comes (they are *pending* until then), so that the
statements of one section may go on adding to them.

A failure is a message and the place it describes, given as what is left of the input
there; `Failure.toError` adds the line and column, or says that the document ended. A decimal
integer of more digits than its conversion accepts is a failure of its own that names no place.
-/

set_option autoImplicit false

namespace JsonPath.Toml

/-! ## Failures -/

/-- Why reading failed: a message and the number of characters left in the input at the place
it describes, or a decimal integer of too many digits to convert. -/
inductive Failure where
  | invalid (message : String) (left : Nat)
  | tooManyDigits (digits : Nat)
deriving DecidableEq, Repr

/-- A failure at the front of `rest`. -/
def Failure.of (message : String) (rest : List Char) : Failure := .invalid message rest.length

/-- Where a position lies: `end of document` past the last character, otherwise its line
and column, both counted from one. -/
def coordinates (src : List Char) (pos : Nat) : String :=
  if src.length ≤ pos then "end of document"
  else
    let before := src.take pos
    let line := before.count '\n' + 1
    let column := if line = 1 then pos + 1
      else (before.reverse.takeWhile (· ≠ '\n')).length + 1
    s!"line {line}, column {column}"

/-- Why a text is not a document: the message of a failure with its place in the text, or an
integer of too many digits. -/
inductive Error where
  | invalid (message : String)
  | tooManyDigits (digits : Nat)
deriving DecidableEq, Repr

/-- The error of a failure in the text `src`. -/
def Failure.toError (src : List Char) : Failure → Error
  | .invalid message left => .invalid (message ++ " (at " ++ coordinates src (src.length - left) ++ ")")
  | .tooManyDigits digits => .tooManyDigits digits

/-- A dotted key, one part per name. -/
abbrev Key := List String

/-- A key as a tuple, `('a', 'b')`, with a trailing comma when it has one part. -/
def Key.render (key : Key) : String :=
  match key with
  | [k] => "(" ++ Text.quote k ++ ",)"
  | _ => "(" ++ ", ".intercalate (key.map Text.quote) ++ ")"

/-! ## Entries -/

/-- A value of a document under construction. -/
inductive Entry where
  /-- A string, number, boolean, date or time. -/
  | leaf (v : Value)
  /-- A table: members under distinct names, in the order they were added. -/
  | table (members : List (String × Entry))
  /-- An array: an inline array, or the tables of an array of tables. -/
  | array (items : List Entry)
deriving Repr, Inhabited

/-- Members of a table. -/
abbrev Members := List (String × Entry)

mutual
/-- The value an entry stands for. -/
def Entry.toValue : Entry → Value
  | .leaf v => v
  | .table members => .obj (Entry.membersToValue members)
  | .array items => .arr (Entry.itemsToValue items)

/-- The values of the members of a table. -/
def Entry.membersToValue : Members → List (String × Value)
  | [] => []
  | (k, e) :: rest => (k, e.toValue) :: Entry.membersToValue rest

/-- The values of the items of an array. -/
def Entry.itemsToValue : List Entry → List Value
  | [] => []
  | e :: rest => e.toValue :: Entry.itemsToValue rest
end

/-- Whether an entry is a table or an array, which an inline value freezes. -/
def Entry.isContainer : Entry → Bool
  | .leaf _ => false
  | _ => true

/-- The entry under a name. -/
def Members.get? (ms : Members) (name : String) : Option Entry :=
  (ms.find? (·.1 == name)).map (·.2)

/-- Whether a name is taken. -/
def Members.has (ms : Members) (name : String) : Bool := ms.any (·.1 == name)

/-- The members with the entry under `name` replaced, or added at the end when the name is
new. -/
def Members.put (ms : Members) (name : String) (e : Entry) : Members :=
  if ms.has name then ms.map fun m => if m.1 == name then (name, e) else m
  else ms ++ [(name, e)]

/-- The message when a key runs into something that is not a table. -/
def overwriteMessage : String := "Cannot overwrite a value"

/-- Changes the table at `key` below a table by `f`, creating the missing tables on the
way. An array on the way stands for its last item when `throughArrays`; anything else on
the way that is not a table refuses with `Cannot overwrite a value`. -/
def updateNest (throughArrays : Bool) (f : Members → Except String Members) :
    Key → Members → Except String Members
  | [], ms => f ms
  | k :: ks, ms =>
    match ms.get? k with
    | none => do
      let inner ← updateNest throughArrays f ks []
      pure (ms.put k (.table inner))
    | some (.table inner) => do
      let inner ← updateNest throughArrays f ks inner
      pure (ms.put k (.table inner))
    | some (.array items) =>
      if throughArrays then
        match items.getLast? with
        | some (.table inner) => do
          let inner ← updateNest throughArrays f ks inner
          pure (ms.put k (.array (items.dropLast ++ [.table inner])))
        | _ => .error overwriteMessage
      else .error overwriteMessage
    | some (.leaf _) => .error overwriteMessage

/-- Appends an empty table to the array of tables at `key`, making the array when the name
is new; refuses when something else is there. -/
def appendTable (key : Key) (ms : Members) : Except String Members :=
  match key.getLast?, key.dropLast with
  | some stem, parent =>
    updateNest true (fun inner =>
      match inner.get? stem with
      | none => .ok (inner.put stem (.array [.table []]))
      | some (.array items) => .ok (inner.put stem (.array (items ++ [.table []])))
      | some _ => .error overwriteMessage) parent ms
  | none, _ => .ok ms

/-! ## Marks -/

/-- The marks of one key and of the keys below it. -/
inductive Mark where
  | node (explicit frozen : Bool) (children : List (String × Mark))
deriving Repr, Inhabited

/-- The marks below the root of a document, by first key part. -/
abbrev Marks := List (String × Mark)

namespace Mark

/-- Whether the key was declared by a header or made by a dotted key. -/
def explicit : Mark → Bool
  | .node e _ _ => e

/-- Whether the key and everything below it are frozen. -/
def frozen : Mark → Bool
  | .node _ f _ => f

/-- The marks of the keys below. -/
def children : Mark → Marks
  | .node _ _ cs => cs

end Mark

/-- The mark under a name. -/
def markOf? (ms : Marks) (name : String) : Option Mark := (ms.find? (·.1 == name)).map (·.2)

/-- The marks with the one under `name` replaced or added. -/
def putMark (ms : Marks) (name : String) (m : Mark) : Marks :=
  if ms.any (·.1 == name) then ms.map fun p => if p.1 == name then (name, m) else p
  else ms ++ [(name, m)]

/-- Whether a key is explicit: its own mark says so. The root never is. -/
def isExplicit (ms : Marks) : Key → Bool
  | [] => false
  | [k] => ((markOf? ms k).map Mark.explicit).getD false
  | k :: ks => match markOf? ms k with
    | some m => isExplicit m.children ks
    | none => false

/-- Whether a key is frozen: it or a key above it was frozen. The root never is. -/
def isFrozen (ms : Marks) : Key → Bool
  | [] => false
  | k :: ks => match markOf? ms k with
    | some m => m.frozen || (!ks.isEmpty && isFrozen m.children ks)
    | none => false

/-- Marks a key explicit, making empty marks on the way. -/
def markExplicit (ms : Marks) : Key → Marks
  | [] => ms
  | [k] =>
    let m := (markOf? ms k).getD (.node false false [])
    putMark ms k (.node true m.frozen m.children)
  | k :: ks =>
    let m := (markOf? ms k).getD (.node false false [])
    putMark ms k (.node m.explicit m.frozen (markExplicit m.children ks))

/-- Freezes a key and everything below it, making empty marks on the way. -/
def markFrozen (ms : Marks) : Key → Marks
  | [] => ms
  | [k] =>
    let m := (markOf? ms k).getD (.node false false [])
    putMark ms k (.node m.explicit true m.children)
  | k :: ks =>
    let m := (markOf? ms k).getD (.node false false [])
    putMark ms k (.node m.explicit m.frozen (markFrozen m.children ks))

/-- Forgets the marks of a key and of everything below it. -/
def unmark (ms : Marks) : Key → Marks
  | [] => ms
  | [k] => ms.filter (·.1 != k)
  | k :: ks => match markOf? ms k with
    | some m => putMark ms k (.node m.explicit m.frozen (unmark m.children ks))
    | none => ms

end JsonPath.Toml
