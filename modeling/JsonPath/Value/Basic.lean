import JsonPath.Number.Basic

/-!
# Values

A value of a document is null, a boolean, a number, a string, an array of values or an
object: members under distinct names, kept in the order they were written.

Two values are *equal* when they have the same kind and equal contents: numbers by the
values they denote, arrays element by element, objects by their names and the values
under them, whatever the order of members. Only two numbers or two strings are ordered:
numbers by value, strings by code points.

Equality is computed without recursion, by a work list of pairs still to compare
(`equalPending`): each pair is compared at the top (`pairs?`) and replaced by the pairs of
its parts. The list ends because the parts are smaller than the values (`Value.size`).
-/

set_option autoImplicit false

namespace JsonPath

/-- A value of a document. -/
inductive Value where
  | null
  | bool (b : Bool)
  | num (n : Number)
  | str (s : String)
  | arr (items : List Value)
  | obj (members : List (String × Value))
deriving Repr, Inhabited

namespace Value

/-- The value under a name of an object's members. -/
def lookup (members : List (String × Value)) (name : String) : Option Value :=
  (members.find? (·.1 == name)).map (·.2)

mutual

/-- The number of values a value holds, itself included: what a walk over the value has
left to visit. -/
def size : Value → Nat
  | .arr items => sizeItems items + 1
  | .obj members => sizeMembers members + 1
  | _ => 1

/-- The number of values the elements of an array hold. -/
def sizeItems : List Value → Nat
  | [] => 0
  | v :: rest => v.size + sizeItems rest

/-- The number of values the members of an object hold. -/
def sizeMembers : List (String × Value) → Nat
  | [] => 0
  | (_, v) :: rest => v.size + sizeMembers rest

end

/-- Array elements paired by position, or none when the lengths differ. -/
def arrayPairs (xs ys : List Value) : Option (List (Value × Value)) :=
  if xs.length = ys.length then some (xs.zip ys) else none

/-- Object members paired by name, whatever their order, or none when the objects have
different sizes or the first has a name the second lacks. -/
def objectPairs (ms ns : List (String × Value)) : Option (List (Value × Value)) :=
  if ms.length = ns.length then ms.mapM fun m => (lookup ns m.1).map fun w => (m.2, w)
  else none

/-- Compares two values at the top: none when their kinds, scalars, lengths or names differ,
else the pairs of their parts that are still to compare. -/
def pairs? : Value → Value → Option (List (Value × Value))
  | .null, .null => some []
  | .bool a, .bool b => if a == b then some [] else none
  | .num a, .num b => if a.same b then some [] else none
  | .str a, .str b => if a == b then some [] else none
  | .arr xs, .arr ys => arrayPairs xs ys
  | .obj ms, .obj ns => objectPairs ms ns
  | _, _ => none

/-- What a work list of pairs has left to compare, counted by the first values. -/
def pendingSize : List (Value × Value) → Nat
  | [] => 0
  | (a, _) :: rest => a.size + pendingSize rest

theorem pendingSize_append (l l' : List (Value × Value)) :
    pendingSize (l ++ l') = pendingSize l + pendingSize l' := by
  induction l with
  | nil => simp [pendingSize]
  | cons p l ih => obtain ⟨a, b⟩ := p; simp only [List.cons_append, pendingSize, ih]; omega

theorem pendingSize_reverse (l : List (Value × Value)) :
    pendingSize l.reverse = pendingSize l := by
  induction l with
  | nil => rfl
  | cons p l ih =>
    obtain ⟨a, b⟩ := p
    simp only [List.reverse_cons, pendingSize_append, ih, pendingSize]
    omega

theorem pendingSize_zip_le : ∀ (xs ys : List Value), pendingSize (xs.zip ys) ≤ sizeItems xs
  | [], _ => by simp [pendingSize]
  | _ :: _, [] => by simp [pendingSize]
  | x :: xs, y :: ys => by
    have := pendingSize_zip_le xs ys
    simp only [List.zip_cons_cons, pendingSize, sizeItems]
    omega

theorem pendingSize_of_mapM : ∀ (ms ns : List (String × Value)) (ps : List (Value × Value)),
    (ms.mapM fun m => (lookup ns m.1).map fun w => (m.2, w)) = some ps →
      pendingSize ps = sizeMembers ms
  | [], _, ps, h => by
    simp only [List.mapM_nil] at h
    cases h
    rfl
  | (k, v) :: ms, ns, ps, h => by
    simp only [List.mapM_cons, Option.pure_def, Option.bind_eq_bind, Option.bind_eq_some_iff,
      Option.map_eq_some_iff, Option.some.injEq] at h
    obtain ⟨_, ⟨w, -, rfl⟩, rest, hrest, rfl⟩ := h
    simp only [pendingSize, sizeMembers, pendingSize_of_mapM ms ns rest hrest]

/-- The parts still to compare are smaller than the values compared. -/
theorem pendingSize_lt_of_pairs? {a b : Value} {ps : List (Value × Value)}
    (h : pairs? a b = some ps) : pendingSize ps < a.size := by
  cases a <;> cases b <;> simp only [pairs?, reduceCtorEq] at h
  case arr.arr xs ys =>
    simp only [arrayPairs] at h
    split at h <;> cases h
    have := pendingSize_zip_le xs ys
    simp only [size]
    omega
  case obj.obj ms ns =>
    simp only [objectPairs] at h
    split at h
    · rw [pendingSize_of_mapM ms ns ps h, size]
      omega
    · cases h
  case null.null =>
    cases h
    simp [pendingSize, size]
  -- two scalars of one kind leave nothing to compare
  all_goals (split at h <;> cases h <;> simp [pendingSize, size])

/-- Whether every pair of a work list holds equal values: pops a pair, compares its values at
the top and pushes the pairs of their parts, so that the last pair pushed is compared next;
the first pair that differs decides. -/
def equalPending : List (Value × Value) → Bool
  | [] => true
  | (a, b) :: rest =>
    match _h : pairs? a b with
    | none => false
    | some ps => equalPending (ps.foldl (fun s p => p :: s) rest)
termination_by pending => pendingSize pending
decreasing_by
  have := pendingSize_lt_of_pairs? _h
  simp only [List.foldl_flip_cons_eq_append, List.map_id', pendingSize_append,
    pendingSize_reverse, pendingSize]
  omega

/-- Structural equality of values, by a work list that starts from the pair itself. -/
def equal (a b : Value) : Bool := equalPending [(a, b)]

/-- The order of values: numbers by value and strings by code points; values of any other
pairing are unordered. -/
def less : Value → Value → Bool
  | .num a, .num b => a.lt b
  | .str a, .str b => decide (a < b)
  | _, _ => false

end Value

end JsonPath
