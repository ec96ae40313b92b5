import JsonPath.Query.Eval
import Mathlib.Data.List.Chain

/-!
# The descendant walk

A descendant segment visits a node and every node below it. `Node.walk` does so with a stack:
it pops a node, visits it and pushes the node's children in reverse order, each one level
deeper, so that the first child is popped next. `Value.preorder` says the same by recursion:
a node, then the nodes below each child in turn.

The two agree (`Node.descendants_eq_preorder`) because the stack always holds the pending
suffix of the pre-order: the walk of a stack is the pre-orders of its entries, top first
(`Node.walk_eq_flatMap`). Popping a node and pushing its children replaces the node's
pre-order by the node followed by its children's pre-orders, which is one unfolding of the
recursion (`Node.preorder_children`).

The evaluator checks each visited node against the depth limit before it uses it. Checked
so, the walk gives its consumer the pre-order up to the first node deeper than the limit and
then stops with the error that names that node's location
(`Node.descendants_preorder_until_too_deep`). Depths in the pre-order rise by at most one level from one
node to the next (`Value.preorder_isChain`), so for a limit `d ≥ -1` that node lies at depth
exactly `d + 1`. The walk visits as many nodes as the value holds (`Value.length_preorder`),
each once.
-/

set_option autoImplicit false

namespace JsonPath

/-! ## The recursion unfolded once -/

theorem Value.preorderItems_eq : ∀ (items : List Value) (loc : Location) (i d : Nat),
    Value.preorderItems items loc i d =
      ((List.range' i items.length).zip items).flatMap fun p =>
        p.2.preorder (loc ++ [.index p.1]) d
  | [], _, _, _ => by simp [Value.preorderItems]
  | v :: rest, loc, i, d => by
    rw [Value.preorderItems, Value.preorderItems_eq rest loc (i + 1) d, List.length_cons,
      List.range'_succ, List.zip_cons_cons, List.flatMap_cons]

theorem Value.preorderMembers_eq : ∀ (ms : List (String × Value)) (loc : Location) (d : Nat),
    Value.preorderMembers ms loc d = ms.flatMap fun m => m.2.preorder (loc ++ [.name m.1]) d
  | [], _, _ => by simp [Value.preorderMembers]
  | (k, v) :: rest, loc, d => by
    rw [Value.preorderMembers, Value.preorderMembers_eq rest loc d, List.flatMap_cons]

/-- The pre-order of a node is the node, then the pre-orders of its children one level
deeper. -/
theorem Node.preorder_children (n : Node) (d : Nat) :
    n.value.preorder n.location d =
      (n, d) :: n.children.flatMap fun c => c.value.preorder c.location (d + 1) := by
  obtain ⟨v, loc⟩ := n
  cases v with
  | arr items =>
    simp only [Value.preorder, children, Value.preorderItems_eq, List.flatMap_map,
      List.range_eq_range']
  | obj ms =>
    simp only [Value.preorder, children, Value.preorderMembers_eq, List.flatMap_map]
  | null | bool _ | num _ | str _ => simp [Value.preorder, children]

/-! ## The stack holds the rest of the pre-order -/

/-- The walk of a stack is the pre-orders of its entries, from the top down. -/
theorem Node.walk_eq_flatMap (stack : List (Node × Nat)) :
    walk stack = stack.flatMap fun e => e.1.value.preorder e.1.location e.2 := by
  fun_induction walk stack with
  | case1 => rfl
  | case2 n d rest ih =>
    -- pushing the reversed children puts the first child on top
    have hpush : (n.children.reverse.map fun c => (c, d + 1)).foldl (fun s e => e :: s) rest =
        (n.children.map fun c => (c, d + 1)) ++ rest := by
      simp only [List.foldl_flip_cons_eq_append, List.map_id', List.map_reverse,
        List.reverse_reverse]
    rw [ih, hpush, List.flatMap_cons, Node.preorder_children, List.flatMap_append,
      List.flatMap_map, List.cons_append]

/-- The walk from a node visits its pre-order. -/
theorem Node.descendants_eq_preorder (n : Node) :
    n.descendants = n.value.preorder n.location 0 := by
  rw [descendants, Node.walk_eq_flatMap, List.flatMap_singleton]

/-! ## Depths and counts along the pre-order -/

section Preorder

mutual

/-- The pre-order holds as many nodes as the value holds values. -/
theorem Value.length_preorder : ∀ (v : Value) (loc : Location) (d : Nat),
    (v.preorder loc d).length = v.size
  | .arr items, loc, d => by
    simp only [Value.preorder, List.length_cons, Value.size,
      Value.length_preorderItems items loc 0 (d + 1)]
  | .obj ms, loc, d => by
    simp only [Value.preorder, List.length_cons, Value.size,
      Value.length_preorderMembers ms loc (d + 1)]
  | .null, _, _ | .bool _, _, _ | .num _, _, _ | .str _, _, _ => rfl

theorem Value.length_preorderItems : ∀ (items : List Value) (loc : Location) (i d : Nat),
    (Value.preorderItems items loc i d).length = Value.sizeItems items
  | [], _, _, _ => rfl
  | v :: rest, loc, i, d => by
    simp only [Value.preorderItems, List.length_append, Value.sizeItems,
      Value.length_preorder v _ d, Value.length_preorderItems rest loc (i + 1) d]

theorem Value.length_preorderMembers : ∀ (ms : List (String × Value)) (loc : Location) (d : Nat),
    (Value.preorderMembers ms loc d).length = Value.sizeMembers ms
  | [], _, _ => rfl
  | (k, v) :: rest, loc, d => by
    simp only [Value.preorderMembers, List.length_append, Value.sizeMembers,
      Value.length_preorder v _ d, Value.length_preorderMembers rest loc d]

end

theorem Value.head?_preorder (v : Value) (loc : Location) (d : Nat) :
    (v.preorder loc d).head? = some (⟨v, loc⟩, d) := by
  cases v <;> rfl

theorem Value.head?_preorderItems (items : List Value) (loc : Location) (i d : Nat) :
    ∀ y ∈ (Value.preorderItems items loc i d).head?, y.2 = d := by
  cases items with
  | nil => simp [Value.preorderItems]
  | cons v rest => simp [Value.preorderItems, List.head?_append, Value.head?_preorder]

theorem Value.head?_preorderMembers (ms : List (String × Value)) (loc : Location) (d : Nat) :
    ∀ y ∈ (Value.preorderMembers ms loc d).head?, y.2 = d := by
  cases ms with
  | nil => simp [Value.preorderMembers]
  | cons m rest =>
    obtain ⟨k, v⟩ := m
    simp [Value.preorderMembers, List.head?_append, Value.head?_preorder]

mutual

/-- Nothing in a pre-order lies above the node it starts from. -/
theorem Value.le_of_mem_preorder : ∀ (v : Value) (loc : Location) (d : Nat),
    ∀ x ∈ v.preorder loc d, d ≤ x.2
  | .arr items, loc, d, x, hx => by
    simp only [Value.preorder, List.mem_cons] at hx
    rcases hx with rfl | hx
    · exact Nat.le_refl _
    · have := Value.le_of_mem_preorderItems items loc 0 (d + 1) x hx
      omega
  | .obj ms, loc, d, x, hx => by
    simp only [Value.preorder, List.mem_cons] at hx
    rcases hx with rfl | hx
    · exact Nat.le_refl _
    · have := Value.le_of_mem_preorderMembers ms loc (d + 1) x hx
      omega
  | .null, _, _, x, hx | .bool _, _, _, x, hx | .num _, _, _, x, hx | .str _, _, _, x, hx => by
    simp only [Value.preorder, List.mem_singleton] at hx
    rw [hx]

theorem Value.le_of_mem_preorderItems : ∀ (items : List Value) (loc : Location) (i d : Nat),
    ∀ x ∈ Value.preorderItems items loc i d, d ≤ x.2
  | [], _, _, _, x, hx => by simp [Value.preorderItems] at hx
  | v :: rest, loc, i, d, x, hx => by
    simp only [Value.preorderItems, List.mem_append] at hx
    rcases hx with hx | hx
    · exact Value.le_of_mem_preorder v _ d x hx
    · exact Value.le_of_mem_preorderItems rest loc (i + 1) d x hx

theorem Value.le_of_mem_preorderMembers : ∀ (ms : List (String × Value)) (loc : Location) (d : Nat),
    ∀ x ∈ Value.preorderMembers ms loc d, d ≤ x.2
  | [], _, _, x, hx => by simp [Value.preorderMembers] at hx
  | (k, v) :: rest, loc, d, x, hx => by
    simp only [Value.preorderMembers, List.mem_append] at hx
    rcases hx with hx | hx
    · exact Value.le_of_mem_preorder v _ d x hx
    · exact Value.le_of_mem_preorderMembers rest loc d x hx

end

/-- From one node of a pre-order to the next, the depth rises by at most one level. -/
def AtMostOneDeeper (x y : Node × Nat) : Prop := y.2 ≤ x.2 + 1

/-- Where one pre-order ends and the next at the same depth begins, the depth does not rise. -/
theorem atMostOneDeeper_boundary {l l' : List (Node × Nat)} {d : Nat} (hl : ∀ x ∈ l, d ≤ x.2)
    (hl' : ∀ y ∈ l'.head?, y.2 = d) : ∀ x ∈ l.getLast?, ∀ y ∈ l'.head?, AtMostOneDeeper x y := by
  intro x hx y hy
  have := hl x (List.mem_of_getLast? hx)
  have := hl' y hy
  simp only [AtMostOneDeeper]
  omega

mutual

theorem Value.preorder_isChain : ∀ (v : Value) (loc : Location) (d : Nat),
    (v.preorder loc d).IsChain AtMostOneDeeper
  | .arr items, loc, d => by
    simp only [Value.preorder]
    refine List.isChain_cons.2 ⟨fun y hy => ?_, Value.preorderItems_isChain items loc 0 (d + 1)⟩
    -- the first node below an array is one level deeper
    simp only [AtMostOneDeeper, Value.head?_preorderItems items loc 0 (d + 1) y hy, Nat.le_refl]
  | .obj ms, loc, d => by
    simp only [Value.preorder]
    refine List.isChain_cons.2 ⟨fun y hy => ?_, Value.preorderMembers_isChain ms loc (d + 1)⟩
    simp only [AtMostOneDeeper, Value.head?_preorderMembers ms loc (d + 1) y hy, Nat.le_refl]
  | .null, _, _ | .bool _, _, _ | .num _, _, _ | .str _, _, _ => List.isChain_singleton _

theorem Value.preorderItems_isChain : ∀ (items : List Value) (loc : Location) (i d : Nat),
    (Value.preorderItems items loc i d).IsChain AtMostOneDeeper
  | [], _, _, _ => List.isChain_nil
  | v :: rest, loc, i, d =>
    (Value.preorder_isChain v _ d).append (Value.preorderItems_isChain rest loc (i + 1) d)
      (atMostOneDeeper_boundary (Value.le_of_mem_preorder v _ d)
        (Value.head?_preorderItems rest loc (i + 1) d))

theorem Value.preorderMembers_isChain : ∀ (ms : List (String × Value)) (loc : Location) (d : Nat),
    (Value.preorderMembers ms loc d).IsChain AtMostOneDeeper
  | [], _, _ => List.isChain_nil
  | (_, v) :: rest, loc, d =>
    (Value.preorder_isChain v _ d).append (Value.preorderMembers_isChain rest loc d)
      (atMostOneDeeper_boundary (Value.le_of_mem_preorder v _ d)
        (Value.head?_preorderMembers rest loc d))

end

/-- In a list of nodes that starts at depth zero and rises by at most one level per step, the
first node deeper than `d ≥ -1` lies at depth `d + 1`. -/
theorem depth_of_first_deep {good rest : List (Node × Nat)} {bad : Node × Nat} {d : Int}
    (hchain : (good ++ bad :: rest).IsChain AtMostOneDeeper)
    (hhead : ∀ x ∈ (good ++ bad :: rest).head?, x.2 = 0)
    (hgood : ∀ x ∈ good, (x.2 : Int) ≤ d) (hbad : d < bad.2) (hd : -1 ≤ d) :
    (bad.2 : Int) = d + 1 := by
  rcases List.eq_nil_or_concat good with rfl | ⟨good', last, rfl⟩
  · -- the first node of all is already too deep: it is the start, at depth zero
    have := hhead bad (by simp)
    omega
  · -- otherwise the node before it is within the limit, and it is at most one level deeper
    rw [List.concat_eq_append, List.append_assoc, List.singleton_append,
      List.isChain_append_cons_cons] at hchain
    have hstep : bad.2 ≤ last.2 + 1 := hchain.2.1
    have hlast := hgood last (by simp)
    omega

end Preorder

/-! ## The walk checked against a depth limit -/

section Checked

variable {β γ ε : Type} (deep : β → Prop) [DecidablePred deep] (stop : β → ε)
  (f : β → Except ε γ)

/-- A checked run over entries that all pass the check is the run of the consumer alone. -/
theorem mapM_checked_of_forall :
    ∀ (l : List β), (∀ x ∈ l, ¬ deep x) →
      l.mapM (fun x => if deep x then throw (stop x) else f x) = l.mapM f
  | [], _ => rfl
  | x :: l, h => by
    have hx : ¬ deep x := h x List.mem_cons_self
    simp only [List.mapM_cons, if_neg hx,
      mapM_checked_of_forall l fun y hy => h y (List.mem_cons_of_mem _ hy)]

/-- A checked run gives the consumer the entries before the first one that fails the check,
then stops with that entry's error. -/
theorem mapM_checked_append (bad : β) (rest : List β) (hbad : deep bad) :
    ∀ (good : List β), (∀ x ∈ good, ¬ deep x) →
      (good ++ bad :: rest).mapM (fun x => if deep x then throw (stop x) else f x) =
        (good.mapM f >>= fun _ => throw (stop bad))
  | [], _ => by
    simp only [List.nil_append, List.mapM_cons, if_pos hbad, List.mapM_nil]
    rfl
  | x :: good, h => by
    have hx : ¬ deep x := h x List.mem_cons_self
    rw [List.cons_append, List.mapM_cons, List.mapM_cons, if_neg hx,
      mapM_checked_append bad rest hbad good fun y hy => h y (List.mem_cons_of_mem _ hy)]
    cases f x <;> cases good.mapM f <;> rfl

end Checked

/-- The descendant walk from a node is the recursive pre-order: the node, then the nodes below
each child in turn, arrays in index order and objects in member order, each node once and
as many as the node's value holds. Checked against a depth limit `d` before each node is used,
as the evaluator does, it gives its consumer the whole pre-order when no node lies deeper than
`d`, and otherwise the nodes before the first one deeper than `d`, then stops with the error
that names that node's location; for `d ≥ -1` that node lies at depth `d + 1`. -/
theorem Node.descendants_preorder_until_too_deep (n : Node) (d : Int) {α : Type}
    (f : Node → Eval α) :
    n.descendants = n.value.preorder n.location 0 ∧
      n.descendants.length = n.value.size ∧
      ((∀ x ∈ n.value.preorder n.location 0, (x.2 : Int) ≤ d) →
        (n.descendants.mapM fun x =>
            if (x.2 : Int) > d then throw (.documentTooDeep d x.1.location) else f x.1) =
          ((n.value.preorder n.location 0).map (·.1)).mapM f) ∧
      ∀ good bad rest, n.value.preorder n.location 0 = good ++ bad :: rest →
        (∀ x ∈ good, (x.2 : Int) ≤ d) → d < bad.2 →
        (n.descendants.mapM fun x =>
            if (x.2 : Int) > d then throw (.documentTooDeep d x.1.location) else f x.1) =
          ((good.map (·.1)).mapM f >>= fun _ => throw (.documentTooDeep d bad.1.location)) ∧
        (-1 ≤ d → (bad.2 : Int) = d + 1) := by
  have hwalk := Node.descendants_eq_preorder n
  refine ⟨hwalk, by rw [hwalk, Value.length_preorder], fun hall => ?_,
    fun good bad rest hsplit hgood hbad => ⟨?_, fun hd => ?_⟩⟩
  · rw [hwalk, mapM_checked_of_forall (fun x : Node × Nat => (x.2 : Int) > d) _ (f ·.1) _
      fun x hx => Int.not_lt.2 (hall x hx), List.mapM_map]
    rfl
  · rw [hwalk, hsplit, mapM_checked_append (fun x : Node × Nat => (x.2 : Int) > d) _ (f ·.1)
      bad rest hbad good fun x hx => Int.not_lt.2 (hgood x hx), List.mapM_map]
    rfl
  · have hchain := Value.preorder_isChain n.value n.location 0
    have hhead : ∀ x ∈ (n.value.preorder n.location 0).head?, x.2 = 0 := by
      rw [Value.head?_preorder]
      simp
    rw [hsplit] at hchain hhead
    exact depth_of_first_deep hchain hhead hgood hbad hd

/-- The walk below `[[1]]`, giving each node's location to its consumer: under the limit 2 it
gives all three nodes in pre-order; under the limit 1 it gives the array and its element, then
stops at the number inside, at `$[0][0]`, one level past the limit. -/
theorem Node.descendants_nested_limits :
    ((Node.descendants ⟨.arr [.arr [.num (.int 1)]], []⟩).mapM fun x =>
        if (x.2 : Int) > 2 then throw (.documentTooDeep 2 x.1.location)
        else (pure x.1.location : Eval Location)) = .ok [[], [.index 0], [.index 0, .index 0]] ∧
      ((Node.descendants ⟨.arr [.arr [.num (.int 1)]], []⟩).mapM fun x =>
        if (x.2 : Int) > 1 then throw (.documentTooDeep 1 x.1.location)
        else (pure x.1.location : Eval Location)) =
          .error (.documentTooDeep 1 [.index 0, .index 0]) := by
  have hpre : (Value.arr [.arr [.num (.int 1)]]).preorder [] 0 =
      [(⟨.arr [.arr [.num (.int 1)]], []⟩, 0), (⟨.arr [.num (.int 1)], [.index 0]⟩, 1)] ++
        (⟨.num (.int 1), [.index 0, .index 0]⟩, 2) :: [] := by
    simp [Value.preorder, Value.preorderItems]
  obtain ⟨-, -, hall, -⟩ := Node.descendants_preorder_until_too_deep
    ⟨.arr [.arr [.num (.int 1)]], []⟩ 2 fun n => (pure n.location : Eval Location)
  obtain ⟨-, -, -, hstop⟩ := Node.descendants_preorder_until_too_deep
    ⟨.arr [.arr [.num (.int 1)]], []⟩ 1 fun n => (pure n.location : Eval Location)
  obtain ⟨hrun, -⟩ := hstop _ _ _ hpre (by simp) (by decide)
  constructor
  · rw [hall (by simp [hpre])]
    simp only [hpre]
    rfl
  · rw [hrun]
    rfl

end JsonPath
