import JsonPath.Query.Eval
import JsonPath.Proofs.ExceptRuns
import JsonPath.Proofs.Descendants

/-!
# Every selected node lies where it says

A node that a query selects carries its location, and the location leads from the root of
the document to the node's value: `Location.get?` follows it step by step, an index step
only inside an array and below its length, a name step only to a member of an object, and
it reaches exactly the value of the node (`Query.eval_locations`). The statement holds for
every query, every depth limit and every document whose objects hold each member name once
(`Value.KeysDistinct`), as objects read from JSON text into a dictionary do: with a name
written twice, a wildcard reaches the second member under a location that names the first.

The invariant is `Node.At`. Each selector keeps it: names, indices and slices step to a child
that `PathStep.child?` finds, wildcards and filters take children of the node, and a filter's
expression only decides which. A descendant segment walks `Value.preorder`, whose nodes are
reached by one step each from a node already reached (`preorder_at`, by recursion on the
value). Segments then keep it node by node (`Segment.evalList_at`), from the root, which
lies at the empty location.
-/

set_option autoImplicit false

namespace JsonPath


mutual

/-- Every object of a value holds each member name once. -/
def Value.KeysDistinct : Value → Prop
  | .arr items => Value.ItemsKeysDistinct items
  | .obj ms => (ms.map (·.1)).Nodup ∧ Value.MembersKeysDistinct ms
  | _ => True

/-- Every element of an array holds each member name once in each of its objects. -/
def Value.ItemsKeysDistinct : List Value → Prop
  | [] => True
  | v :: vs => v.KeysDistinct ∧ Value.ItemsKeysDistinct vs

/-- Every member value holds each member name once in each of its objects. -/
def Value.MembersKeysDistinct : List (String × Value) → Prop
  | [] => True
  | (_, v) :: ms => v.KeysDistinct ∧ Value.MembersKeysDistinct ms

end

namespace Value

theorem itemsKeysDistinct_iff {items : List Value} :
    ItemsKeysDistinct items ↔ ∀ v ∈ items, v.KeysDistinct := by
  induction items with
  | nil => simp [ItemsKeysDistinct]
  | cons v vs ih => simp [ItemsKeysDistinct, ih]

theorem membersKeysDistinct_iff {ms : List (String × Value)} :
    MembersKeysDistinct ms ↔ ∀ m ∈ ms, m.2.KeysDistinct := by
  induction ms with
  | nil => simp [MembersKeysDistinct]
  | cons m ms ih => obtain ⟨k, v⟩ := m; simp [MembersKeysDistinct, ih]

theorem lookup_eq_some_of_mem {ms : List (String × Value)} {k : String} {v : Value}
    (hnd : (ms.map (·.1)).Nodup) (hm : (k, v) ∈ ms) : lookup ms k = some v := by
  induction ms with
  | nil => cases hm
  | cons m ms ih =>
    obtain ⟨k', v'⟩ := m
    simp only [List.map_cons, List.nodup_cons, List.mem_map] at hnd
    rcases List.mem_cons.1 hm with h | h
    · cases h
      simp [lookup]
    · have hk : k' ≠ k := fun hk => hnd.1 ⟨(k, v), h, hk.symm⟩
      simpa [lookup, hk] using ih hnd.2 h

theorem mem_of_lookup_eq_some {ms : List (String × Value)} {k : String} {v : Value}
    (h : lookup ms k = some v) : (k, v) ∈ ms := by
  obtain ⟨m, hm, rfl⟩ := Option.map_eq_some_iff.1 h
  have := List.mem_of_find?_eq_some hm
  have hk := List.find?_some hm
  simp at hk
  rw [← hk]
  exact this

end Value

namespace Location

theorem get?_append (l l' : Location) (v : Value) :
    get? (l ++ l') v = (get? l v).bind (get? l') := by
  induction l generalizing v with
  | nil => simp [get?]
  | cons s rest ih =>
    simp only [List.cons_append, get?, Option.bind_assoc]
    congr 1
    funext w
    exact ih w

theorem get?_snoc (l : Location) (s : PathStep) (v : Value) :
    get? (l ++ [s]) v = (get? l v).bind s.child? := by
  rw [get?_append]
  congr 1
  funext w
  simp [get?]

end Location

theorem PathStep.keysDistinct_child? {s : PathStep} {v w : Value} (hv : v.KeysDistinct)
    (h : s.child? v = some w) : w.KeysDistinct := by
  cases s <;> cases v <;> simp only [PathStep.child?] at h <;> try cases h
  case index.arr i items =>
    simp only [Value.KeysDistinct, Value.itemsKeysDistinct_iff] at hv
    exact hv w (List.mem_of_getElem? h)
  case name.obj k ms =>
    simp only [Value.KeysDistinct, Value.membersKeysDistinct_iff] at hv
    exact hv.2 _ (Value.mem_of_lookup_eq_some h)

theorem Location.keysDistinct_get? {v w : Value} (hv : v.KeysDistinct) :
    ∀ {l : Location}, l.get? v = some w → w.KeysDistinct := by
  intro l
  induction l generalizing v with
  | nil => intro h; simp [Location.get?] at h; exact h ▸ hv
  | cons s rest ih =>
    intro h
    obtain ⟨u, hu, h⟩ := Option.bind_eq_some_iff.1 h
    exact ih (PathStep.keysDistinct_child? hv hu) h


/-- A node lies where it says in a document: its location leads from the root to its value. -/
def Node.At (root : Value) (n : Node) : Prop := n.location.get? root = some n.value

namespace Node

variable {root : Value}

theorem at_child {n : Node} (hn : n.At root) {s : PathStep} {v : Value}
    (h : s.child? n.value = some v) : (⟨v, n.location ++ [s]⟩ : Node).At root := by
  unfold Node.At at hn ⊢
  rw [Location.get?_snoc, hn]
  exact h

theorem keysDistinct_value (hroot : root.KeysDistinct) {n : Node} (hn : n.At root) :
    n.value.KeysDistinct :=
  Location.keysDistinct_get? hroot hn

theorem mem_range_zip {items : List Value} {i : Nat} {v : Value}
    (h : (i, v) ∈ (List.range items.length).zip items) : items[i]? = some v := by
  obtain ⟨k, hk, hkv⟩ := List.getElem_of_mem h
  simp only [List.getElem_zip, List.getElem_range, Prod.mk.injEq] at hkv
  obtain ⟨rfl, rfl⟩ := hkv
  simp

theorem children_at (hroot : root.KeysDistinct) {n : Node} (hn : n.At root) :
    ∀ c ∈ n.children, c.At root := by
  have hkd := keysDistinct_value hroot hn
  unfold children
  split
  · rename_i items hv
    intro c hc
    obtain ⟨⟨i, v⟩, hiv, rfl⟩ := List.mem_map.1 hc
    refine at_child hn (s := .index i) ?_
    rw [hv]
    exact mem_range_zip hiv
  · rename_i ms hv
    intro c hc
    obtain ⟨⟨k, v⟩, hkv, rfl⟩ := List.mem_map.1 hc
    rw [hv] at hkd
    refine at_child hn (s := .name k) ?_
    rw [hv]
    exact Value.lookup_eq_some_of_mem hkd.1 hkv
  · simp

theorem selectName_at {n : Node} (hn : n.At root) (name : String) :
    ∀ c ∈ n.selectName name, c.At root := by
  unfold selectName
  split
  · rename_i ms hv
    split
    · rename_i v hl
      simp only [List.mem_singleton]
      rintro c rfl
      exact at_child hn (s := .name name) (by rw [hv]; exact hl)
    · simp
  · simp

theorem selectIndex_at {n : Node} (hn : n.At root) (i : Int) :
    ∀ c ∈ n.selectIndex i, c.At root := by
  intro c hc
  unfold selectIndex at hc
  split at hc
  · rename_i items hv
    generalize (if i ≥ 0 then i else (items.length : Int) + i) = pos at hc
    dsimp only at hc
    split at hc
    · simp at hc
    split at hc
    · rename_i v hget
      rw [List.mem_singleton] at hc
      subst hc
      exact at_child hn (by rw [hv]; exact hget)
    · simp at hc
  · simp at hc

theorem selectSlice_at {n : Node} (hn : n.At root) (a b c : Option Int) :
    ∀ x ∈ n.selectSlice a b c, x.At root := by
  unfold selectSlice
  split
  · rename_i items hv
    intro x hx
    obtain ⟨pos, -, hpos⟩ := List.mem_filterMap.1 hx
    obtain ⟨v, hget, rfl⟩ := Option.map_eq_some_iff.1 hpos
    exact at_child hn (by rw [hv]; exact hget)
  · simp

end Node

section Preorder

variable {root : Value}

mutual

/-- The nodes below a node of a document lie where they say. -/
theorem preorder_at (hroot : root.KeysDistinct) :
    ∀ (v : Value) (loc : Location) (d : Nat), loc.get? root = some v →
      ∀ x ∈ Value.preorder v loc d, x.1.At root
  | .arr items, loc, d, h => by
    intro x hx
    simp only [Value.preorder, List.mem_cons] at hx
    rcases hx with rfl | hx
    · exact h
    refine preorderItems_at hroot items loc 0 (d + 1) (fun j hj => ?_) x hx
    rw [Location.get?_snoc, h]
    simp [PathStep.child?, hj]
  | .obj ms, loc, d, h => by
    intro x hx
    simp only [Value.preorder, List.mem_cons] at hx
    rcases hx with rfl | hx
    · exact h
    have hnd := (Location.keysDistinct_get? hroot h).1
    refine preorderMembers_at hroot ms loc (d + 1) (fun m hm => ?_) x hx
    rw [Location.get?_snoc, h]
    exact Value.lookup_eq_some_of_mem hnd hm
  | .null, loc, d, h => by simpa [Value.preorder, Node.At] using h
  | .bool _, loc, d, h => by simpa [Value.preorder, Node.At] using h
  | .num _, loc, d, h => by simpa [Value.preorder, Node.At] using h
  | .str _, loc, d, h => by simpa [Value.preorder, Node.At] using h

theorem preorderItems_at (hroot : root.KeysDistinct) :
    ∀ (items : List Value) (loc : Location) (i d : Nat),
      (∀ j (hj : j < items.length), (loc ++ [PathStep.index (i + j)]).get? root = some items[j]) →
      ∀ x ∈ Value.preorderItems items loc i d, x.1.At root
  | [], _, _, _, _ => by simp [Value.preorderItems]
  | v :: rest, loc, i, d, h => by
    intro x hx
    simp only [Value.preorderItems, List.mem_append] at hx
    rcases hx with hx | hx
    · have h0 := h 0 (by simp)
      simp only [Nat.add_zero, List.getElem_cons_zero] at h0
      exact preorder_at hroot v (loc ++ [.index i]) d h0 x hx
    · refine preorderItems_at hroot rest loc (i + 1) d (fun j hj => ?_) x hx
      have hj1 := h (j + 1) (by simp; omega)
      simp only [List.getElem_cons_succ] at hj1
      rwa [show i + 1 + j = i + (j + 1) by omega]

theorem preorderMembers_at (hroot : root.KeysDistinct) :
    ∀ (ms : List (String × Value)) (loc : Location) (d : Nat),
      (∀ m ∈ ms, (loc ++ [PathStep.name m.1]).get? root = some m.2) →
      ∀ x ∈ Value.preorderMembers ms loc d, x.1.At root
  | [], _, _, _ => by simp [Value.preorderMembers]
  | (k, v) :: rest, loc, d, h => by
    intro x hx
    simp only [Value.preorderMembers, List.mem_append] at hx
    rcases hx with hx | hx
    · exact preorder_at hroot v (loc ++ [.name k]) d (h (k, v) (by simp)) x hx
    · exact preorderMembers_at hroot rest loc d (fun m hm => h m (by simp [hm])) x hx

end

theorem Node.descendants_at (hroot : root.KeysDistinct) {n : Node} (hn : n.At root) :
    ∀ x ∈ n.descendants, x.1.At root := by
  rw [Node.descendants_eq_preorder]
  exact preorder_at hroot n.value n.location 0 hn

end Preorder

section Eval

variable {root : Value}

theorem Selector.eval_at (hroot : root.KeysDistinct) {s : Selector} {ctx : EvalContext}
    {n : Node} {out : List Node} (h : s.eval ctx n = .ok out) (hn : n.At root) :
    ∀ c ∈ out, c.At root := by
  cases s <;> simp only [Selector.eval] at h
  case name name => cases h; exact Node.selectName_at hn name
  case index i => cases h; exact Node.selectIndex_at hn i
  case wildcard => cases h; exact Node.children_at hroot hn
  case slice a b c => cases h; exact Node.selectSlice_at hn a b c
  case filter e =>
    -- a filter keeps some of the children
    split at h
    · cases h
    · intro c hc
      exact Node.children_at hroot hn c (filterM_except_subset h c hc)

theorem Selector.evalList_at (hroot : root.KeysDistinct) {ctx : EvalContext} {n : Node}
    (hn : n.At root) :
    ∀ {sels : List Selector} {out : List Node}, Selector.evalList sels ctx n = .ok out →
      ∀ c ∈ out, c.At root
  | [], out, h => by
    rw [Selector.evalList] at h
    cases h
    simp
  | s :: rest, out, h => by
    rw [Selector.evalList] at h
    obtain ⟨first, hfirst, h⟩ := bind_eq_ok.1 h
    obtain ⟨more, hmore, h⟩ := bind_eq_ok.1 h
    cases h
    intro c hc
    rcases List.mem_append.1 hc with hc | hc
    · exact Selector.eval_at hroot hfirst hn c hc
    · exact Selector.evalList_at hroot hn hmore c hc

theorem Segment.eval_at (hroot : root.KeysDistinct) {s : Segment} {ctx : EvalContext}
    {nodes out : List Node} (h : s.eval ctx nodes = .ok out) (hnodes : ∀ n ∈ nodes, n.At root) :
    ∀ c ∈ out, c.At root := by
  cases s with
  | child sels =>
    rw [Segment.eval] at h
    obtain ⟨parts, hparts, h⟩ := bind_eq_ok.1 h
    cases h
    have hall := mapM_except_mem (P := fun part => ∀ c ∈ part, c.At root) hparts
      fun n hn part hpart => Selector.evalList_at hroot (hnodes n hn) hpart
    intro c hc
    obtain ⟨part, hpart, hc⟩ := List.mem_flatten.1 hc
    exact hall part hpart c hc
  | descendant sels =>
    -- each node, then every node below it within the depth limit
    rw [Segment.eval] at h
    obtain ⟨parts, hparts, h⟩ := bind_eq_ok.1 h
    cases h
    have hall := mapM_except_mem
      (P := fun part : List (List Node) => ∀ sub ∈ part, ∀ c ∈ sub, c.At root) hparts
      fun n hn part hpart => mapM_except_mem hpart fun x hx sub hsub => by
        obtain ⟨d, depth⟩ := x
        dsimp only at hsub
        split at hsub
        · cases hsub
        · exact Selector.evalList_at hroot (Node.descendants_at hroot (hnodes n hn) _ hx) hsub
    intro c hc
    obtain ⟨sub, hsub, hc⟩ := List.mem_flatten.1 hc
    obtain ⟨part, hpart, rfl⟩ := List.mem_map.1 hsub
    obtain ⟨sub, hsub, hc⟩ := List.mem_flatten.1 hc
    exact hall part hpart sub hsub c hc

theorem Segment.evalList_at (hroot : root.KeysDistinct) {ctx : EvalContext} :
    ∀ {segs : List Segment} {nodes out : List Node}, Segment.evalList segs ctx nodes = .ok out →
      (∀ n ∈ nodes, n.At root) → ∀ c ∈ out, c.At root
  | [], nodes, out, h, hnodes => by
    rw [Segment.evalList] at h
    cases h
    exact hnodes
  | s :: rest, nodes, out, h, hnodes => by
    rw [Segment.evalList] at h
    obtain ⟨next, hnext, h⟩ := bind_eq_ok.1 h
    exact Segment.evalList_at hroot h (Segment.eval_at hroot hnext hnodes)

/-- Every node a query selects from a document lies at its location in the document. -/
theorem Query.eval_at {q : Query} {reg : Registry} {maxDepth : Int} {root : Value}
    {nodes : List Node} (hroot : root.KeysDistinct) (h : q.eval reg maxDepth root = .ok nodes) :
    ∀ n ∈ nodes, n.At root := by
  obtain ⟨r, segs⟩ := q
  cases r with
  | current =>
    -- a query from the current node is refused
    simp [Query.eval, Query.root] at h
  | document =>
    simp only [Query.eval, Query.root, Query.evalAt] at h
    -- evaluation starts at the root, at the empty location
    exact Segment.evalList_at hroot h fun n hn => by
      rw [List.mem_singleton.1 hn]
      rfl

/-- Every node a query selects from a document lies where it says: following its location
from the root, each index step inside an array and below its length and each name step to a
member of an object, reaches exactly the node's value. -/
theorem Query.eval_locations {q : Query} {reg : Registry} {maxDepth : Int} {root : Value}
    {nodes : List Node} (hroot : root.KeysDistinct) (h : q.eval reg maxDepth root = .ok nodes) :
    ∀ n ∈ nodes, n.location.get? root = some n.value :=
  Query.eval_at hroot h

/-- `$..b` on `{"a": [1, {"b": null}]}` selects the member `b` inside the array, at
`$['a'][1]['b']`. -/
theorem descendant_name_location :
    (Value.obj [("a", .arr [.num (.int 1), .obj [("b", .null)]])]).KeysDistinct ∧
      (Query.mk .document [.descendant [.name "b"]]).eval Registry.empty 10
        (.obj [("a", .arr [.num (.int 1), .obj [("b", .null)]])]) =
        .ok [⟨.null, [.name "a", .index 1, .name "b"]⟩] ∧
      Location.get? [.name "a", .index 1, .name "b"]
        (.obj [("a", .arr [.num (.int 1), .obj [("b", .null)]])]) = some .null := by
  have hkd : (Value.obj [("a", .arr [.num (.int 1), .obj [("b", .null)]])]).KeysDistinct := by
    simp [Value.KeysDistinct, Value.ItemsKeysDistinct, Value.MembersKeysDistinct]
  have heval : (Query.mk .document [.descendant [.name "b"]]).eval Registry.empty 10
      (.obj [("a", .arr [.num (.int 1), .obj [("b", .null)]])]) =
      .ok [⟨.null, [.name "a", .index 1, .name "b"]⟩] := by
    simp [Query.eval, Query.evalAt, Segment.evalList, Segment.eval, Selector.evalList,
      Selector.eval, Node.descendants_eq_preorder, Value.preorder, Value.preorderItems,
      Value.preorderMembers, Node.selectName, Value.lookup]
    rfl
  exact ⟨hkd, heval, Query.eval_locations hkd heval ⟨.null, [.name "a", .index 1, .name "b"]⟩
    (List.mem_singleton_self _)⟩

end Eval

end JsonPath
