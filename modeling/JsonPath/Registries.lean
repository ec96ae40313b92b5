import JsonPath.Function.Builtin
import JsonPath.Syntax.Grammar

/-!
# Live registries

A program may hold several registries at once. Each registry is an object with a flag,
open or frozen, and a reference to a table of definitions in registration order. A registry
is created empty, as an open copy of another registry, or as an open copy without some of
the other's functions; every new registry gets a new table, filled with the definitions
it starts with. The built-in registry is one object that the whole program shares, under
handle `0`.

Registering a function checks the registry as `Registry.register` does and, when the checks
pass, appends the function to the registry's table. Freezing sets the flag. Reading a query
text against a registry freezes it first, whatever the reading gives.

`Registries.step` performs one operation and answers it; `Registries.run` performs a
sequence of operations from `Registries.initial`, where the built-in registry alone exists.
-/

set_option autoImplicit false

namespace JsonPath

/-- A registry object: the address of its table of definitions, and whether it is frozen. -/
structure RegistryObject where
  table : Nat
  frozen : Bool
deriving DecidableEq, Repr

/-- The registries of a program: tables of definitions by address, registry objects by
handle. -/
structure Registries where
  tables : List (List FunctionDef)
  objects : List RegistryObject

/-- An operation of a program on its registries, which it names by handle. The built-in
registry is handle `0`. -/
inductive RegistryOp where
  /-- A new empty open registry. -/
  | create
  /-- An open copy of the built-in registry. -/
  | default
  /-- Registers a function in a registry. -/
  | register (handle : Nat) (f : FunctionDef)
  /-- Freezes a registry. -/
  | freeze (handle : Nat)
  /-- An open copy of a registry. -/
  | copy (handle : Nat)
  /-- An open copy of a registry without the functions of the given names. -/
  | without (handle : Nat) (names : List String)
  /-- Reads a query text against a registry, which it freezes. -/
  | parse (handle : Nat) (source : String)

namespace RegistryOp

/-- The registry an operation changes, if any: registering, freezing and reading a query
change the registry they are given; the other operations only create one. -/
def target? : RegistryOp → Option Nat
  | .register h _ | .freeze h | .parse h _ => some h
  | .create | .default | .copy _ | .without _ _ => none

end RegistryOp

/-- What an operation answers. -/
inductive RegistryAnswer where
  /-- The handle of a new registry. -/
  | created (handle : Nat)
  /-- The definition registered, or why it was refused. -/
  | registered (result : Except RegistrationError FunctionDef)
  /-- The query read, or why none was. -/
  | parsed (result : Except Syntax.QueryError Query)
  /-- Nothing to answer: a registry was frozen. -/
  | done
  /-- No registry has the handle. -/
  | unknownHandle

namespace Registries

/-- At start the built-in registry alone exists, under handle `0`, with table `0`. -/
def initial : Registries :=
  ⟨[Registry.builtin.functions], [⟨0, Registry.builtin.frozen⟩]⟩

/-- The registry under a handle: the definitions of its table and its flag. -/
def get? (s : Registries) (h : Nat) : Option Registry :=
  s.objects[h]?.bind fun o => s.tables[o.table]?.map fun t => ⟨t, o.frozen⟩

/-- A new registry, with a new table holding the functions of `r` and the flag of `r`;
answers its handle. -/
def alloc (s : Registries) (r : Registry) : Registries × RegistryAnswer :=
  (⟨s.tables ++ [r.functions], s.objects ++ [⟨s.tables.length, r.frozen⟩]⟩,
    .created s.objects.length)

/-- Sets the flag of the registry under a handle. -/
def freezeAt (s : Registries) (h : Nat) : Registries :=
  match s.objects[h]? with
  | some o => { s with objects := s.objects.set h { o with frozen := true } }
  | none => s

/-- Registers a function in the registry under a handle: the checks of `Registry.register`,
then the function appended to the registry's table. -/
def registerAt (s : Registries) (h : Nat) (f : FunctionDef) : Registries × RegistryAnswer :=
  match s.objects[h]?, s.get? h with
  | some o, some r =>
    match r.register f with
    | .ok r' => ({ s with tables := s.tables.set o.table r'.functions }, .registered (.ok f))
    | .error e => (s, .registered (.error e))
  | _, _ => (s, .unknownHandle)

/-- Performs one operation. -/
def step (s : Registries) : RegistryOp → Registries × RegistryAnswer
  | .create => s.alloc Registry.empty
  | .default =>
    match s.get? 0 with
    | some r => s.alloc r.copy
    | none => (s, .unknownHandle)
  | .register h f => s.registerAt h f
  | .freeze h =>
    match s.get? h with
    | some _ => (s.freezeAt h, .done)
    | none => (s, .unknownHandle)
  | .copy h =>
    match s.get? h with
    | some r => s.alloc r.copy
    | none => (s, .unknownHandle)
  | .without h names =>
    match s.get? h with
    | some r => s.alloc (r.without names)
    | none => (s, .unknownHandle)
  | .parse h source =>
    match s.get? h with
    | some r => (s.freezeAt h, .parsed (Query.parse r.freeze source))
    | none => (s, .unknownHandle)

/-- Performs a sequence of operations. -/
def run (s : Registries) (ops : List RegistryOp) : Registries :=
  ops.foldl (fun s op => (s.step op).1) s

end Registries

end JsonPath
