import JsonPath.Value.Basic

/-!
# Kinds of values and their accessors

A value is asked which kind it is, and then read through the accessor of that kind: the
boolean, the number, the string, the items of an array or the members of an object. Each
accessor gives nothing for a value of another kind.

The kind is decided by tests in a fixed order over the data of the host language, where a
boolean is also an integer (`intOrFloat?` reads `false` and `true` as `0` and `1`). The test
for a boolean comes before the one for numbers, so `true` is of the boolean kind, and the
number accessor refuses a boolean.
-/

set_option autoImplicit false

namespace JsonPath

/-- The kinds of values of a document. -/
inductive ValueKind where
  | null
  | bool
  | number
  | string
  | array
  | object
deriving DecidableEq, Repr

namespace Value

/-- The data as an integer or a float of the host language, where `false` and `true` are the
integers `0` and `1`. -/
def intOrFloat? : Value → Option Number
  | .bool b => some (.int (if b then 1 else 0))
  | .num n => some n
  | _ => none

/-- The kind of a value, tested in the order null, boolean, number, string, object, array. -/
def kind (v : Value) : ValueKind :=
  if v matches .null then .null
  else if v matches .bool _ then .bool
  else if v.intOrFloat?.isSome then .number
  else if v matches .str _ then .string
  else if v matches .obj _ then .object
  -- every value left is an array
  else .array

/-- The boolean of a value. -/
def asBool? : Value → Option Bool
  | .bool b => some b
  | _ => none

/-- The number of a value; a boolean, though an integer of the host language, has none. -/
def asNumber? (v : Value) : Option Number :=
  if v matches .bool _ then none else v.intOrFloat?

/-- The string of a value. -/
def asStr? : Value → Option String
  | .str s => some s
  | _ => none

/-- The items of an array. -/
def asArray? : Value → Option (List Value)
  | .arr items => some items
  | _ => none

/-- The members of an object, in their order. -/
def asObject? : Value → Option (List (String × Value))
  | .obj members => some members
  | _ => none

@[simp] theorem kind_null : Value.null.kind = .null := rfl
@[simp] theorem kind_bool (b : Bool) : (Value.bool b).kind = .bool := rfl
@[simp] theorem kind_num (n : Number) : (Value.num n).kind = .number := rfl
@[simp] theorem kind_str (s : String) : (Value.str s).kind = .string := rfl
@[simp] theorem kind_arr (items : List Value) : (Value.arr items).kind = .array := rfl
@[simp] theorem kind_obj (members : List (String × Value)) :
    (Value.obj members).kind = .object := rfl

end Value

end JsonPath
