import JsonPath.Text.Quoted

/-!
# Bytes that are not UTF-8

Reading bytes as UTF-8 text stops at the first bytes that are not UTF-8, and the refusal says
where and why: `'utf-8' codec can't decode byte 0xff in position 0: invalid start byte`.

A character is a lead byte and the continuation bytes (`80` to `BF`) it asks for: none below
`80`, one for `C2` to `DF`, two for `E0` to `EF` and three for `F0` to `F4`; any other byte leads
nothing. The byte after `E0` is at least `A0` and after `F0` at least `90` (no longer form of a
shorter character), the byte after `ED` is below `A0` (no surrogate) and after `F4` below `90`
(nothing above U+10FFFF).

The fault of a byte that leads nothing is that byte. A wrong continuation byte makes a fault of
the bytes of the character before it; bytes that end before the character does make a fault of
the bytes from its lead byte to the end (`utf8Fault?`).
-/

set_option autoImplicit false

namespace JsonPath.Text

/-- Why bytes are not UTF-8. -/
inductive Utf8Problem where
  | invalidStart
  | invalidContinuation
  | unexpectedEnd
deriving DecidableEq, Repr

/-- The words a refusal gives for a problem. -/
def Utf8Problem.reason : Utf8Problem → String
  | .invalidStart => "invalid start byte"
  | .invalidContinuation => "invalid continuation byte"
  | .unexpectedEnd => "unexpected end of data"

/-- The first bytes that are not UTF-8: the positions from `start` to before `stop`, the byte
at `start` and the problem. -/
structure Utf8Fault where
  start : Nat
  stop : Nat
  lead : UInt8
  problem : Utf8Problem
deriving DecidableEq, Repr

/-- The refusal of the bytes of a fault. -/
def Utf8Fault.message (f : Utf8Fault) : String :=
  if f.stop = f.start + 1 then
    "'utf-8' codec can't decode byte 0x" ++ hexPadded 2 f.lead.toNat ++ " in position " ++
      toString f.start ++ ": " ++ f.problem.reason
  else
    "'utf-8' codec can't decode bytes in position " ++ toString f.start ++ "-" ++
      toString (f.stop - 1) ++ ": " ++ f.problem.reason

/-- How many bytes a character with this lead byte takes; none for a byte that leads none. -/
def utf8Width (lead : UInt8) : Option Nat :=
  if lead < 0x80 then some 1
  else if lead < 0xC2 then none
  else if lead < 0xE0 then some 2
  else if lead < 0xF0 then some 3
  else if lead < 0xF5 then some 4
  else none

/-- A continuation byte. -/
def isContinuation (b : UInt8) : Bool := 0x80 ≤ b && b < 0xC0

/-- The byte right after a lead byte fits it: a continuation byte, in the narrower range that
`E0`, `ED`, `F0` and `F4` ask for. -/
def fitsAfterLead (lead b : UInt8) : Bool :=
  isContinuation b &&
    (if lead = 0xE0 then 0xA0 ≤ b
     else if lead = 0xED then b < 0xA0
     else if lead = 0xF0 then 0x90 ≤ b
     else if lead = 0xF4 then b < 0x90
     else true)

/-- Where the `k` continuation bytes of a character go wrong, `i` bytes of it having been read:
how many bytes from the lead byte the fault covers, and its problem. -/
def continuationFault? (lead : UInt8) : Nat → Nat → List UInt8 → Option (Nat × Utf8Problem)
  | 0, _, _ => none
  | _ + 1, i, [] => some (i, .unexpectedEnd)
  | k + 1, i, b :: rest =>
    if (if i = 1 then fitsAfterLead lead b else isContinuation b) then
      continuationFault? lead k (i + 1) rest
    else some (i, .invalidContinuation)

/-- The first fault of bytes that start at position `pos`, if they are not UTF-8. -/
def utf8Fault? (pos : Nat) : List UInt8 → Option Utf8Fault
  | [] => none
  | b :: rest =>
    match utf8Width b with
    | none => some ⟨pos, pos + 1, b, .invalidStart⟩
    | some n =>
      match continuationFault? b (n - 1) 1 rest with
      | some (i, p) => some ⟨pos, pos + i, b, p⟩
      | none => utf8Fault? (pos + n) (rest.drop (n - 1))
termination_by bytes => bytes.length
decreasing_by simp only [List.length_drop, List.length_cons]; omega

end JsonPath.Text
