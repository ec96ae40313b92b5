import JsonPath.Json.Reader
import JsonPath.Proofs.Locations

/-!
# Documents read from JSON

A JSON text may write a name twice in one object; the reader then keeps the name at its first
place with its last value (`putMember`). So every object of every document it reads holds each
name once (`read_keysDistinct`), which the results about queries, equality and the config file
ask of a document.

The reader is three functions that call each other, each spending one unit of fuel per call.
One induction on the fuel carries the three invariants at once (`keysDistinct_of_fuel`): a value
read holds each name once in each of its objects (`ValuesKeep`), and so does an array or an
object read on from items or members that do (`ItemsKeep`, `MembersKeep`). Each function keeps
its invariant for one more unit of fuel given the invariants of the functions it calls
(`ValuesKeep.succ`, `ItemsKeep.succ`, `MembersKeep.succ`).
-/

set_option autoImplicit false

namespace JsonPath.Json

open Value

/-- Adding a member to an object whose names are distinct keeps them distinct. -/
theorem putMember_keysDistinct {acc : List (String × Value)} {name : String} {v : Value}
    (hacc : (Value.obj acc).KeysDistinct) (hv : v.KeysDistinct) :
    (Value.obj (putMember acc name v)).KeysDistinct := by
  simp only [KeysDistinct, membersKeysDistinct_iff] at hacc ⊢
  unfold putMember
  split_ifs with hname
  · -- the name is present: it keeps its place and takes the new value
    have hnames : ((fun m : String × Value => m.1) ∘
        fun m => if m.1 == name then (name, v) else m) = (·.1) := by
      funext m
      by_cases h : m.1 = name <;> simp [h]
    refine ⟨by rw [List.map_map, hnames]; exact hacc.1, fun m hm => ?_⟩
    obtain ⟨m', hm', rfl⟩ := List.mem_map.1 hm
    by_cases h : m'.1 = name
    · simpa [h] using hv
    · simpa [h] using hacc.2 m' hm'
  · -- a new name goes last
    have hnew : name ∉ acc.map (·.1) := by
      simpa using hname
    refine ⟨?_, fun m hm => ?_⟩
    · rw [List.map_append, List.nodup_append]
      refine ⟨hacc.1, by simp, fun a ha b hb hab => hnew ?_⟩
      simp only [List.map_cons, List.map_nil, List.mem_singleton] at hb
      rw [← hb, ← hab]
      exact ha
    · rcases List.mem_append.1 hm with hm | hm
      · exact hacc.2 m hm
      · rw [List.mem_singleton.1 hm]
        exact hv

theorem constant?_keysDistinct {cs rest : List Char} {v : Value}
    (h : constant? cs = some (v, rest)) : v.KeysDistinct := by
  obtain ⟨⟨text, w⟩, hc, hf⟩ := List.exists_of_findSome?_eq_some h
  have hconst : ∀ c ∈ constants, c.2.KeysDistinct := by
    simp [constants, KeysDistinct]
  simp only at hf
  split_ifs at hf
  cases hf
  exact hconst _ hc

/-! ## The three invariants of the reader -/

/-- A value read at this fuel holds each name once in each of its objects. -/
def ValuesKeep (fuel : Nat) : Prop :=
  ∀ cs v rest, value fuel cs = .ok (v, rest) → v.KeysDistinct

/-- An array read on at this fuel from items whose objects hold each name once does too. -/
def ItemsKeep (fuel : Nat) : Prop :=
  ∀ cs acc v rest, (Value.arr acc).KeysDistinct → arrayItems fuel cs acc = .ok (v, rest) →
    v.KeysDistinct

/-- An object read on at this fuel from members whose objects hold each name once does too. -/
def MembersKeep (fuel : Nat) : Prop :=
  ∀ cs acc v rest, (Value.obj acc).KeysDistinct → objectMembers fuel cs acc = .ok (v, rest) →
    v.KeysDistinct

variable {fuel : Nat}

/-- One more unit of fuel for a value: a scalar holds no object, and an array or an object is
read on from no items or members. -/
theorem ValuesKeep.succ (iha : ItemsKeep fuel) (iho : MembersKeep fuel) :
    ValuesKeep (fuel + 1) := by
  intro cs v rest h
  simp only [value] at h
  split at h
  · -- a string holds no object
    split at h <;> cases h
    trivial
  · exact iha _ [] v rest (by simp [KeysDistinct, ItemsKeysDistinct]) h
  · exact iho _ [] v rest (by simp [KeysDistinct, MembersKeysDistinct]) h
  · split at h
    · rename_i hr
      cases h
      exact constant?_keysDistinct hr
    · -- a number holds no object
      split at h
      · split_ifs at h
        cases h
        trivial
      · cases h
        trivial
      · cases h

/-- One more unit of fuel for the items of an array: the item read joins the others. -/
theorem ItemsKeep.succ (ihv : ValuesKeep fuel) (iha : ItemsKeep fuel) :
    ItemsKeep (fuel + 1) := by
  intro cs acc v rest hacc h
  simp only [arrayItems] at h
  split at h
  · cases h
    simp [KeysDistinct, ItemsKeysDistinct]
  · split at h
    · cases h
    · rename_i w after hw
      have hcons : ∀ u ∈ w :: acc, u.KeysDistinct := by
        simp only [KeysDistinct, itemsKeysDistinct_iff] at hacc
        rintro u (_ | ⟨_, hu⟩)
        exacts [ihv _ _ _ hw, hacc u hu]
      split at h
      · cases h
        simp only [KeysDistinct, itemsKeysDistinct_iff, List.mem_reverse]
        exact hcons
      · exact iha _ _ _ _ (by simpa [KeysDistinct, itemsKeysDistinct_iff] using hcons) h
      · cases h

/-- One more unit of fuel for the members of an object: the member read is put in. -/
theorem MembersKeep.succ (ihv : ValuesKeep fuel) (iho : MembersKeep fuel) :
    MembersKeep (fuel + 1) := by
  intro cs acc v rest hacc h
  simp only [objectMembers] at h
  split at h
  · cases h
    simp [KeysDistinct, MembersKeysDistinct]
  · split at h
    · cases h
    · split at h
      · split at h
        · cases h
        · rename_i w after hw
          have hput : ∀ name, (Value.obj (putMember acc name w)).KeysDistinct :=
            fun _ => putMember_keysDistinct hacc (ihv _ _ _ hw)
          split at h
          · cases h
            exact hput _
          · exact iho _ _ _ _ (hput _) h
          · cases h
      · cases h
  · cases h

/-- The reader keeps its three invariants at every fuel: no fuel reads nothing, and each step
keeps them by the lemmas above. -/
theorem keysDistinct_of_fuel : ∀ fuel : Nat, ValuesKeep fuel ∧ ItemsKeep fuel ∧ MembersKeep fuel
  | 0 => by
    refine ⟨fun _ _ _ h => ?_, fun _ _ _ _ _ h => ?_, fun _ _ _ _ _ h => ?_⟩ <;>
      simp [value, arrayItems, objectMembers] at h
  | fuel + 1 => by
    obtain ⟨ihv, iha, iho⟩ := keysDistinct_of_fuel fuel
    exact ⟨.succ iha iho, .succ ihv iha, .succ ihv iho⟩

/-- Every object of a document read from JSON holds each name once. -/
theorem read_keysDistinct {text : String} {v : Value} (h : read text = .ok v) :
    v.KeysDistinct := by
  simp only [read] at h
  split at h
  · cases h
  · split at h
    · cases h
    · rename_i rest hv
      split at h
      · cases h
        exact (keysDistinct_of_fuel _).1 _ _ _ hv
      · cases h

end JsonPath.Json
