import JsonPath.Node

/-!
# The order of locations and duplicate-free node lists

A step is ordered by a key: `(0, i, "")` for the index `i`, `(1, 0, s)` for the name `s`,
keys compared component by component. So every index comes before every name, indices
compare as numbers and names by code points (`PathStep.compare_eq_compareKeys`). Two steps
have the same key only when they are the same step, so equal keys, which also decide when
two steps hash alike, mean equal steps. Locations are ordered step by step, a location before
the longer ones it starts: this is the lexicographic order of the standard library
(`Location.compare_eq_compareLex`), so it is a strict total order whose equality is equality
of locations (`Location.compare_eq_eq_iff`, `Location.compare_swap`, `Location.compare_lt_trans`).

`NodeList.dedup` sorts a list of nodes by location, stably, and drops each node whose
location equals that of the node before it. On a sorted list this keeps exactly what a pass
remembering the locations seen so far keeps (`dropRepeats_eq_keepFirsts`). Hence the result
is strictly increasing by location, holds one node for each location of the list, namely the
first node of the list at that location (stability of the sort, `filter_mergeSort`), and a
second `dedup` changes nothing (`NodeList.dedup_sorted_first_occurrences`).
-/

set_option autoImplicit false

namespace JsonPath

/-! ## Steps -/

namespace PathStep

/-- The key a step is ordered by: indices before names, then the index or the name. -/
def sortKey : PathStep → Nat × Nat × String
  | .index i => (0, i, "")
  | .name s => (1, 0, s)

/-- Keys compared component by component: the first difference decides. -/
def compareKeys (a b : Nat × Nat × String) : Ordering :=
  (Ord.compare a.1 b.1).then ((Ord.compare a.2.1 b.2.1).then (Ord.compare a.2.2 b.2.2))

theorem compare_eq_compareKeys (s t : PathStep) : s.compare t = compareKeys s.sortKey t.sortKey := by
  cases s <;> cases t <;>
    simp only [compare, compareKeys, sortKey, Std.ReflOrd.compare_self, Ordering.eq_then,
      Ordering.then_eq]
  case index.name => rfl
  case name.index => rfl

theorem sortKey_inj {s t : PathStep} : s.sortKey = t.sortKey ↔ s = t := by
  cases s <;> cases t <;> simp [sortKey]

theorem compare_swap (s t : PathStep) : s.compare t = (t.compare s).swap := by
  cases s <;> cases t
  case index.index i j => exact Std.OrientedOrd.eq_swap
  case index.name => rfl
  case name.index => rfl
  case name.name a b => exact Std.OrientedOrd.eq_swap

instance : Std.OrientedCmp PathStep.compare where
  eq_swap := compare_swap _ _

instance : Std.TransCmp PathStep.compare where
  isLE_trans {s t u} hst htu := by
    cases s <;> cases t <;> cases u <;> simp only [compare] at hst htu ⊢
    all_goals first
      | exact Std.TransOrd.isLE_trans hst htu
      | rfl
      | exact absurd hst (by decide)
      | exact absurd htu (by decide)

theorem compare_self (s : PathStep) : s.compare s = .eq := Std.ReflCmp.compare_self

instance : Std.LawfulEqCmp PathStep.compare where
  eq_of_compare {s t} h := by
    cases s <;> cases t <;> simp only [compare, reduceCtorEq] at h
    case index.index i j => rw [Std.LawfulEqOrd.eq_of_compare h]
    case name.name a b => rw [Std.LawfulEqOrd.eq_of_compare h]

end PathStep

/-! ## Locations -/

namespace Location

theorem compare_eq_compareLex : ∀ a b : Location, a.compare b = List.compareLex PathStep.compare a b
  | [], [] => rfl
  | [], _ :: _ => rfl
  | _ :: _, [] => rfl
  | s :: as, t :: bs => by
    rw [compare, List.compareLex_cons_cons, compare_eq_compareLex as bs]
    cases s.compare t <;> rfl

instance : Std.TransCmp Location.compare := by
  have h : Location.compare = List.compareLex PathStep.compare := by
    funext a b
    exact compare_eq_compareLex a b
  rw [h]
  infer_instance

instance : Std.LawfulEqCmp Location.compare := by
  have h : Location.compare = List.compareLex PathStep.compare := by
    funext a b
    exact compare_eq_compareLex a b
  rw [h]
  infer_instance

theorem compare_eq_eq_iff {a b : Location} : a.compare b = .eq ↔ a = b :=
  Std.LawfulEqCmp.compare_eq_iff_eq

theorem compare_swap (a b : Location) : b.compare a = (a.compare b).swap :=
  Std.OrientedCmp.eq_swap

theorem compare_self (a : Location) : a.compare a = .eq := Std.ReflCmp.compare_self

theorem compare_lt_trans {a b c : Location} (hab : a.compare b = .lt) (hbc : b.compare c = .lt) :
    a.compare c = .lt :=
  Std.TransCmp.lt_trans hab hbc

/-- A location comes before every longer location it starts. -/
theorem compare_prefix : ∀ (a : Location) (s : PathStep) (rest : Location),
    a.compare (a ++ s :: rest) = .lt
  | [], _, _ => rfl
  | t :: a, s, rest => by
    rw [List.cons_append, compare, PathStep.compare_self]
    exact compare_prefix a s rest

theorem map_sortKey_inj {a b : Location} :
    a.map PathStep.sortKey = b.map PathStep.sortKey ↔ a = b :=
  List.map_inj_right fun _ _ => PathStep.sortKey_inj.1

end Location

/-! ## Sorting and dropping repeats -/

namespace NodeList

/-- The order `dedup` sorts by: `a` may stand before `b` when its location is not greater. -/
def sortLE (a b : Node) : Bool := a.location.compare b.location != .gt

theorem sortLE_iff {a b : Node} : sortLE a b = true ↔ (a.location.compare b.location).isLE := by
  simp only [sortLE]
  cases a.location.compare b.location <;> decide

theorem sortLE_trans (a b c : Node) (hab : sortLE a b = true) (hbc : sortLE b c = true) :
    sortLE a c = true :=
  sortLE_iff.2 (Std.TransCmp.isLE_trans (sortLE_iff.1 hab) (sortLE_iff.1 hbc))

theorem sortLE_total (a b : Node) : (sortLE a b || sortLE b a) = true := by
  rw [Bool.or_eq_true, sortLE_iff, sortLE_iff, Location.compare_swap a.location b.location]
  cases a.location.compare b.location <;> decide

theorem sortLE_of_location_eq {a b : Node} (h : a.location = b.location) : sortLE a b = true := by
  rw [sortLE_iff, h, Location.compare_self]
  rfl

/-- The nodes of a list whose location no earlier node has, in order: what a pass keeps that
remembers the locations it has seen, starting from `seen`. -/
def keepFirsts (seen : List Location) : List Node → List Node
  | [] => []
  | n :: ns =>
    if n.location ∈ seen then keepFirsts seen ns else n :: keepFirsts (n.location :: seen) ns

theorem keepFirsts_sublist :
    ∀ (seen : List Location) (ns : List Node), List.Sublist (keepFirsts seen ns) ns
  | _, [] => List.Sublist.slnil
  | seen, n :: ns => by
    rw [keepFirsts]
    split
    · exact (keepFirsts_sublist seen ns).cons n
    · exact (keepFirsts_sublist _ ns).cons_cons n

theorem location_not_mem_seen :
    ∀ {seen : List Location} {ns : List Node}, ∀ m ∈ keepFirsts seen ns, m.location ∉ seen
  | _, [] => by simp [keepFirsts]
  | seen, n :: ns => by
    rw [keepFirsts]
    split
    · exact location_not_mem_seen
    · rename_i hn
      intro m hm
      rcases List.mem_cons.1 hm with rfl | hm
      · exact hn
      · exact fun h => location_not_mem_seen m hm (List.mem_cons_of_mem _ h)

/-- The kept nodes have distinct locations. -/
theorem keepFirsts_pairwise :
    ∀ (seen : List Location) (ns : List Node),
      (keepFirsts seen ns).Pairwise fun a b => a.location ≠ b.location
  | _, [] => List.Pairwise.nil
  | seen, n :: ns => by
    rw [keepFirsts]
    split
    · exact keepFirsts_pairwise seen ns
    · refine List.Pairwise.cons (fun m hm h => ?_) (keepFirsts_pairwise _ ns)
      exact location_not_mem_seen m hm (h ▸ List.mem_cons_self)

/-- Every location of the list is seen before or kept. -/
theorem exists_kept :
    ∀ {seen : List Location} {ns : List Node}, ∀ n ∈ ns,
      n.location ∈ seen ∨ ∃ m ∈ keepFirsts seen ns, m.location = n.location
  | _, [] => by simp
  | seen, n :: ns => by
    intro x hx
    rw [keepFirsts]
    split
    · rename_i hn
      rcases List.mem_cons.1 hx with rfl | hx
      · exact .inl hn
      · exact @exists_kept seen ns x hx
    · rcases List.mem_cons.1 hx with rfl | hx
      · exact .inr ⟨x, List.mem_cons_self, rfl⟩
      · rcases @exists_kept (n.location :: seen) ns x hx with h | ⟨m, hm, hmn⟩
        · rcases List.mem_cons.1 h with h | h
          · exact .inr ⟨n, List.mem_cons_self, h.symm⟩
          · exact .inl h
        · exact .inr ⟨m, List.mem_cons_of_mem _ hm, hmn⟩

/-- A kept node is the first node of the list at its location. -/
theorem find?_of_kept :
    ∀ {seen : List Location} {ns : List Node}, ∀ m ∈ keepFirsts seen ns,
      ns.find? (fun x => decide (x.location = m.location)) = some m
  | _, [] => by simp [keepFirsts]
  | seen, n :: ns => by
    intro m hm
    have hm' := location_not_mem_seen m hm
    rw [keepFirsts] at hm
    split at hm
    · rename_i hn
      have hne : n.location ≠ m.location := fun h => hm' (h ▸ hn)
      rw [List.find?_cons_of_neg (by simpa using hne)]
      exact find?_of_kept m hm
    · rcases List.mem_cons.1 hm with rfl | hm
      · simp
      · have hne : n.location ≠ m.location := fun h =>
          @location_not_mem_seen (n.location :: seen) ns m hm (h ▸ List.mem_cons_self)
        rw [List.find?_cons_of_neg (by simpa using hne)]
        exact find?_of_kept m hm

/-- Nothing is dropped from a list of distinct locations. -/
theorem keepFirsts_of_pairwise :
    ∀ {ns : List Node}, ns.Pairwise (fun a b => a.location ≠ b.location) →
      ∀ {seen : List Location}, (∀ n ∈ ns, n.location ∉ seen) → keepFirsts seen ns = ns
  | [], _, _, _ => rfl
  | n :: ns, h, seen, hseen => by
    rw [keepFirsts, if_neg (hseen n List.mem_cons_self)]
    congr 1
    refine keepFirsts_of_pairwise (List.pairwise_cons.1 h).2 fun x hx hmem => ?_
    rcases List.mem_cons.1 hmem with hxn | hmem
    · exact (List.pairwise_cons.1 h).1 x hx hxn.symm
    · exact hseen x (List.mem_cons_of_mem _ hx) hmem

/-- On a sorted list, dropping each node at the location of the node kept before it is the
pass that remembers every location seen: the seen locations are all at most the last kept one.
By induction over the list, carrying the last kept node. -/
theorem dropRepeats_cons_eq :
    ∀ {a : Node} {rest : List Node} {seen : List Location},
      (a :: rest).Pairwise (fun x y => sortLE x y = true) →
      a.location ∈ seen → (∀ l ∈ seen, (l.compare a.location).isLE) →
      dropRepeats (a :: rest) = a :: keepFirsts seen rest
  | a, [], _, _, _, _ => by rw [dropRepeats, keepFirsts]
  | a, b :: rest, seen, hsorted, ha, hseen => by
    have hab : sortLE a b = true := List.rel_of_pairwise_cons hsorted List.mem_cons_self
    have htail : (b :: rest).Pairwise (fun x y => sortLE x y = true) := hsorted.of_cons
    rw [dropRepeats]
    split
    · rename_i heq
      -- `b` repeats the location of `a`: dropped, and already seen
      rw [Location.compare_eq_eq_iff] at heq
      have hsorted' : (a :: rest).Pairwise (fun x y => sortLE x y = true) :=
        List.Pairwise.cons (fun x hx => List.rel_of_pairwise_cons hsorted (List.mem_cons_of_mem _ hx))
          htail.of_cons
      rw [dropRepeats_cons_eq hsorted' ha hseen, keepFirsts, if_pos (heq ▸ ha)]
    · rename_i hne
      -- `b` lies past every seen location: kept, and the pass goes on from it
      have hlt : a.location.compare b.location = .lt := by
        have := sortLE_iff.1 hab
        revert this hne
        cases a.location.compare b.location <;> simp
      have hnotin : b.location ∉ seen := fun hb => by
        have := hseen _ hb
        rw [Location.compare_swap, hlt] at this
        exact absurd this (by decide)
      rw [keepFirsts, if_neg hnotin, dropRepeats_cons_eq htail List.mem_cons_self fun l hl => ?_]
      rcases List.mem_cons.1 hl with rfl | hl
      · rw [Location.compare_self]
        rfl
      · exact Std.TransCmp.isLE_trans (hseen l hl) (sortLE_iff.1 hab)

theorem dropRepeats_eq_keepFirsts {ns : List Node} (h : ns.Pairwise (fun x y => sortLE x y = true)) :
    dropRepeats ns = keepFirsts [] ns := by
  cases ns with
  | nil => rw [dropRepeats, keepFirsts]
  | cons a rest =>
    rw [dropRepeats_cons_eq h List.mem_cons_self fun l hl => ?_, keepFirsts,
      if_neg List.not_mem_nil]
    rw [List.mem_singleton.1 hl, Location.compare_self]
    rfl

/-- Sorting keeps the order of the nodes at one location: the sort is stable. -/
theorem filter_mergeSort (ns : List Node) (l : Location) :
    (ns.mergeSort sortLE).filter (fun x => decide (x.location = l)) =
      ns.filter (fun x => decide (x.location = l)) := by
  have hsame : (ns.filter fun x => decide (x.location = l)).Pairwise
      (fun x y => sortLE x y = true) := by
    refine List.pairwise_of_forall_mem_list fun a ha b hb => sortLE_of_location_eq ?_
    simp only [List.mem_filter, decide_eq_true_eq] at ha hb
    rw [ha.2, hb.2]
  have hsub := List.sublist_mergeSort sortLE_trans sortLE_total hsame (List.filter_sublist)
  have hsub' := hsub.filter fun x => decide (x.location = l)
  simp only [List.filter_filter, Bool.and_self] at hsub'
  exact (hsub'.eq_of_length ((List.mergeSort_perm ns sortLE).filter _).length_eq.symm).symm

theorem dedup_eq_keepFirsts (ns : List Node) : dedup ns = keepFirsts [] (ns.mergeSort sortLE) :=
  dropRepeats_eq_keepFirsts (List.pairwise_mergeSort sortLE_trans sortLE_total ns)

theorem dedup_pairwise_lt (ns : List Node) :
    (dedup ns).Pairwise fun a b => a.location.compare b.location = .lt := by
  rw [dedup_eq_keepFirsts]
  have hsorted := (List.pairwise_mergeSort sortLE_trans sortLE_total ns).sublist
    (keepFirsts_sublist [] _)
  refine (hsorted.and (keepFirsts_pairwise [] _)).imp fun {a b} ⟨hle, hne⟩ => ?_
  replace hne := mt Location.compare_eq_eq_iff.1 hne
  have := sortLE_iff.1 hle
  revert this hne
  cases a.location.compare b.location <;> simp

theorem exists_mem_dedup {ns : List Node} : ∀ n ∈ ns, ∃ m ∈ dedup ns, m.location = n.location := by
  intro n hn
  rw [dedup_eq_keepFirsts]
  rcases exists_kept n (List.mem_mergeSort.2 hn) with h | h
  · exact absurd h List.not_mem_nil
  · exact h

theorem find?_of_mem_dedup {ns : List Node} :
    ∀ m ∈ dedup ns, ns.find? (fun x => decide (x.location = m.location)) = some m := by
  intro m hm
  rw [dedup_eq_keepFirsts] at hm
  rw [← List.head?_filter, ← filter_mergeSort, List.head?_filter]
  exact find?_of_kept m hm

theorem dedup_dedup (ns : List Node) : dedup (dedup ns) = dedup ns := by
  have hlt := dedup_pairwise_lt ns
  have hsorted : (dedup ns).Pairwise (fun x y => sortLE x y = true) :=
    hlt.imp fun h => by rw [sortLE, h]; rfl
  have hdistinct : (dedup ns).Pairwise fun a b => a.location ≠ b.location :=
    hlt.imp fun h heq => by rw [heq, Location.compare_self] at h; cases h
  rw [dedup_eq_keepFirsts, List.mergeSort_of_pairwise hsorted,
    keepFirsts_of_pairwise hdistinct fun _ _ => List.not_mem_nil]

end NodeList

/-- Locations are ordered by the keys of their steps (indices before names, indices as
numbers, names by code points), step by step with a prefix first: a strict total order whose
equality is equality of locations, that is of their steps' keys. Removing duplicates from a
list of nodes sorts it by location and keeps, for each location of the list, its first node
there: the result is strictly increasing, is what remembering the locations seen along the
sorted list keeps, and a second pass changes nothing. -/
theorem NodeList.dedup_sorted_first_occurrences :
    (∀ s t : PathStep, s.compare t = PathStep.compareKeys s.sortKey t.sortKey) ∧
    (∀ a b : Location, a.compare b = .eq ↔ a = b) ∧
    (∀ a b : Location, a.map PathStep.sortKey = b.map PathStep.sortKey ↔ a = b) ∧
    (∀ a b : Location, b.compare a = (a.compare b).swap) ∧
    (∀ a b c : Location, a.compare b = .lt → b.compare c = .lt → a.compare c = .lt) ∧
    (∀ (a : Location) (s : PathStep) (rest : Location), a.compare (a ++ s :: rest) = .lt) ∧
    ∀ ns : List Node,
      (dedup ns).Pairwise (fun a b => a.location.compare b.location = .lt) ∧
      (∀ n ∈ ns, ∃ m ∈ dedup ns, m.location = n.location) ∧
      (∀ m ∈ dedup ns, ns.find? (fun x => decide (x.location = m.location)) = some m) ∧
      dedup ns = keepFirsts [] (ns.mergeSort sortLE) ∧
      dedup (dedup ns) = dedup ns :=
  ⟨PathStep.compare_eq_compareKeys, fun _ _ => Location.compare_eq_eq_iff,
    fun _ _ => Location.map_sortKey_inj, Location.compare_swap,
    fun _ _ _ => Location.compare_lt_trans, Location.compare_prefix,
    fun ns => ⟨dedup_pairwise_lt ns, exists_mem_dedup, find?_of_mem_dedup,
      dedup_eq_keepFirsts ns, dedup_dedup ns⟩⟩

end JsonPath
