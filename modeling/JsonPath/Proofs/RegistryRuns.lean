import Mathlib.Data.List.Nodup
import JsonPath.Registries

/-!
# Registries over a run

A run is any sequence of operations on the live registries from the start of the program.
Three facts carry every statement about runs; each is proved for one step and then, by
induction, for a run.

* Registries own their tables (`Registries.Owned`): every registry refers to a table that
  exists, and no two registries refer to the same table. A new registry gets a table at a
  new address, and registering writes only the table of the registry it registers in.
* A registry changes only by an operation on it (`step_frame`, `run_frame`): registering,
  freezing or reading a query against one registry leaves every other registry as it was,
  and creating a registry leaves the existing ones as they were.
* A frozen registry never changes (`step_frozen`, `run_frozen`): registering in it is
  refused, and freezing it again changes nothing.

From them: the names of every registry are valid and distinct (`run_consistent`), and the
built-in registry holds its five functions, frozen, after every run (`run_builtin`).
`Registries.run_invariant` gathers these with what each operation does: a refused
registration changes nothing and reports the first check that fails, an accepted one
appends its function, a copy is a new open registry with the definitions of the original,
and reading a query freezes the registry it is given, whatever it reads.
-/

set_option autoImplicit false

namespace JsonPath

/-! ## One registry -/

namespace Registry

/-- The functions of a registry have valid names, no name twice. -/
def WellNamed (r : Registry) : Prop :=
  (r.functions.map (·.name)).Nodup ∧ ∀ f ∈ r.functions, isValidName f.name = true

theorem contains_iff {r : Registry} {name : String} :
    r.contains name = true ↔ name ∈ r.functions.map (·.name) := by
  unfold contains
  simp

/-- A registration is refused at the first of its checks that fails: the registry is
frozen, the name is not valid, the name is taken. -/
theorem register_eq_error_iff {r : Registry} {f : FunctionDef} {e : RegistrationError} :
    r.register f = .error e ↔
      (r.frozen = true ∧ e = .frozen f.name) ∨
      (r.frozen = false ∧ isValidName f.name = false ∧ e = .invalidName f.name) ∨
      (r.frozen = false ∧ isValidName f.name = true ∧ r.contains f.name = true ∧
        e = .duplicate f.name) := by
  unfold register
  cases hfz : r.frozen <;> cases hv : isValidName f.name <;> cases hc : r.contains f.name <;>
    simp [eq_comm]

/-- An accepted registration appends the function after all the others. -/
theorem register_eq_ok_iff {r r' : Registry} {f : FunctionDef} :
    r.register f = .ok r' ↔
      r.frozen = false ∧ isValidName f.name = true ∧ r.contains f.name = false ∧
        r' = ⟨r.functions ++ [f], false⟩ := by
  unfold register
  cases hfz : r.frozen <;> cases hv : isValidName f.name <;> cases hc : r.contains f.name <;>
    simp [eq_comm]

theorem WellNamed.register {r r' : Registry} {f : FunctionDef} (hr : r.WellNamed)
    (h : r.register f = .ok r') : r'.WellNamed := by
  obtain ⟨-, hv, hc, rfl⟩ := register_eq_ok_iff.1 h
  have hfresh : f.name ∉ r.functions.map (·.name) := fun hm =>
    Bool.false_ne_true (hc ▸ contains_iff.2 hm)
  refine ⟨?_, ?_⟩
  · rw [List.map_append, List.map_singleton]
    exact List.nodup_append.2 ⟨hr.1, List.nodup_singleton _,
      fun a ha b hb => by rw [List.mem_singleton] at hb; exact hb ▸ fun he => hfresh (he ▸ ha)⟩
  · intro g hg
    rcases List.mem_append.1 hg with hg | hg
    · exact hr.2 g hg
    · rw [List.mem_singleton] at hg
      exact hg ▸ hv

theorem WellNamed.without {r : Registry} (hr : r.WellNamed) (names : List String) :
    (r.without names).WellNamed :=
  ⟨hr.1.sublist (List.filter_sublist.map _),
    fun f hf => hr.2 f (List.mem_filter.1 hf).1⟩

theorem empty_wellNamed : Registry.empty.WellNamed := ⟨List.nodup_nil, by simp [empty]⟩

theorem builtin_wellNamed : Registry.builtin.WellNamed := by
  refine ⟨by decide, ?_⟩
  simp only [builtin, List.mem_cons, List.not_mem_nil, or_false]
  rintro f (rfl | rfl | rfl | rfl | rfl) <;> rfl

end Registry

/-! ## Registry objects and their tables -/

namespace Registries

variable {s : Registries} {h h' : Nat} {r r' : Registry}

theorem get?_eq_some_iff :
    s.get? h = some r ↔ ∃ o, s.objects[h]? = some o ∧ s.tables[o.table]? = some r.functions ∧
      o.frozen = r.frozen := by
  obtain ⟨fs, fz⟩ := r
  simp only [get?, Option.bind_eq_some_iff, Option.map_eq_some_iff, Registry.mk.injEq]
  constructor
  · rintro ⟨o, ho, t, ht, rfl, rfl⟩
    exact ⟨o, ho, ht, rfl⟩
  · rintro ⟨o, ho, ht, rfl⟩
    exact ⟨o, ho, fs, ht, rfl, rfl⟩

theorem get?_of_object {o : RegistryObject} (ho : s.objects[h]? = some o) :
    s.get? h = s.tables[o.table]?.map fun t => ⟨t, o.frozen⟩ := by
  simp [get?, ho]

theorem lt_of_get? (hr : s.get? h = some r) : h < s.objects.length := by
  obtain ⟨o, ho, -⟩ := get?_eq_some_iff.1 hr
  exact (List.getElem?_eq_some_iff.1 ho).1

/-- Registries own their tables: every registry refers to a table that exists, and no two
registries refer to the same table. -/
structure Owned (s : Registries) : Prop where
  table_lt : ∀ o ∈ s.objects, o.table < s.tables.length
  nodup : (s.objects.map (·.table)).Nodup

/-- Two registries that refer to one table are one registry. -/
theorem Owned.eq_of_table_eq (hs : s.Owned) {o o' : RegistryObject}
    (ho : s.objects[h]? = some o) (ho' : s.objects[h']? = some o') (he : o.table = o'.table) :
    h = h' := by
  obtain ⟨hlt, hget⟩ := List.getElem?_eq_some_iff.1 ho
  obtain ⟨hlt', hget'⟩ := List.getElem?_eq_some_iff.1 ho'
  have hi : h < (s.objects.map (·.table)).length := by simpa using hlt
  have hj : h' < (s.objects.map (·.table)).length := by simpa using hlt'
  refine (@List.Nodup.getElem_inj_iff _ _ hs.nodup h hi h' hj).1 ?_
  simp [hget, hget', he]

/-! ### A new registry -/

theorem alloc_get?_of_lt (hs : s.Owned) (hh : h < s.objects.length) :
    (s.alloc r).1.get? h = s.get? h := by
  have ho := List.getElem?_eq_getElem hh
  have hlt := hs.table_lt _ (List.getElem_mem hh)
  have ho' : (s.alloc r).1.objects[h]? = some s.objects[h] := by
    simp only [alloc, List.getElem?_append_left hh, ho]
  rw [get?_of_object ho', get?_of_object ho]
  simp only [alloc, List.getElem?_append_left hlt]

theorem alloc_get?_self : (s.alloc r).1.get? s.objects.length = some r := by
  simp [get?, alloc]

theorem Owned.alloc (hs : s.Owned) : (s.alloc r).1.Owned where
  table_lt o ho := by
    simp only [Registries.alloc, List.mem_append, List.mem_singleton, List.length_append,
      List.length_singleton] at ho ⊢
    rcases ho with ho | rfl
    · exact Nat.lt_succ_of_lt (hs.table_lt o ho)
    · exact Nat.lt_succ_self _
  nodup := by
    simp only [Registries.alloc, List.map_append, List.map_singleton]
    refine List.nodup_append.2 ⟨hs.nodup, List.nodup_singleton _, ?_⟩
    intro a ha b hb
    rw [List.mem_singleton] at hb
    obtain ⟨o, ho, rfl⟩ := List.mem_map.1 ha
    exact hb ▸ Nat.ne_of_lt (hs.table_lt o ho)

/-! ### Freezing -/

theorem freezeAt_get?_of_ne (hne : h' ≠ h) : (s.freezeAt h).get? h' = s.get? h' := by
  unfold freezeAt
  cases ho : s.objects[h]? with
  | none => rfl
  | some o => simp [get?, List.getElem?_set_ne (Ne.symm hne)]

theorem freezeAt_get?_self : (s.freezeAt h).get? h = (s.get? h).map Registry.freeze := by
  unfold freezeAt
  cases ho : s.objects[h]? with
  | none => simp [get?, ho]
  | some o =>
    have hlt := (List.getElem?_eq_some_iff.1 ho).1
    cases ht : s.tables[o.table]? <;>
      simp [get?, ho, ht, List.getElem?_set_self hlt, Registry.freeze]

theorem Owned.freezeAt (hs : s.Owned) : (s.freezeAt h).Owned := by
  unfold Registries.freezeAt
  cases ho : s.objects[h]? with
  | none => exact hs
  | some o =>
    -- freezing changes a flag, never a table address
    have hmap : ((s.objects.set h { o with frozen := true }).map (·.table)) =
        s.objects.map (·.table) := by
      refine List.ext_getElem? fun i => ?_
      rw [List.getElem?_map, List.getElem?_map, List.getElem?_set]
      by_cases hi : h = i
      · subst hi
        obtain ⟨hlt, hget⟩ := List.getElem?_eq_some_iff.1 ho
        simp [hlt, hget]
      · simp [hi]
    refine ⟨fun o' ho' => ?_, by simpa [hmap] using hs.nodup⟩
    rcases List.mem_or_eq_of_mem_set ho' with ho' | rfl
    · exact hs.table_lt o' ho'
    · exact hs.table_lt o (List.mem_of_getElem? ho)

/-! ### Writing a table -/

theorem setTable_get?_of_ne (hs : s.Owned) {o : RegistryObject} (ho : s.objects[h]? = some o)
    (hne : h' ≠ h) (fs : List FunctionDef) :
    ({ s with tables := s.tables.set o.table fs } : Registries).get? h' = s.get? h' := by
  cases ho' : s.objects[h']? with
  | none => simp [get?, ho']
  | some o' =>
    have htab : o'.table ≠ o.table := fun he => hne (hs.eq_of_table_eq ho' ho he)
    simp [get?, ho', List.getElem?_set_ne (Ne.symm htab)]

theorem setTable_get?_self (hs : s.Owned) {o : RegistryObject} (ho : s.objects[h]? = some o)
    (fs : List FunctionDef) :
    ({ s with tables := s.tables.set o.table fs } : Registries).get? h = some ⟨fs, o.frozen⟩ := by
  have hlt := hs.table_lt o (List.mem_of_getElem? ho)
  simp [get?, ho, List.getElem?_set_self hlt]

theorem Owned.setTable (hs : s.Owned) (a : Nat) (fs : List FunctionDef) :
    ({ s with tables := s.tables.set a fs } : Registries).Owned :=
  ⟨fun o ho => by simpa using hs.table_lt o ho, hs.nodup⟩

/-! ### Registering -/

theorem registerAt_of_error (hr : s.get? h = some r) {f : FunctionDef} {e : RegistrationError}
    (he : r.register f = .error e) : s.registerAt h f = (s, .registered (.error e)) := by
  obtain ⟨o, ho, -⟩ := get?_eq_some_iff.1 hr
  simp [registerAt, ho, hr, he]

theorem registerAt_of_ok (hr : s.get? h = some r) {f : FunctionDef}
    (hok : r.register f = .ok r') :
    ∃ o, s.objects[h]? = some o ∧
      s.registerAt h f = ({ s with tables := s.tables.set o.table r'.functions },
        .registered (.ok f)) := by
  obtain ⟨o, ho, -⟩ := get?_eq_some_iff.1 hr
  exact ⟨o, ho, by simp [registerAt, ho, hr, hok]⟩

theorem registerAt_of_none (hr : s.get? h = none) (f : FunctionDef) :
    s.registerAt h f = (s, .unknownHandle) := by
  unfold registerAt
  cases s.objects[h]? <;> simp [hr]

theorem registerAt_get?_self (hs : s.Owned) (hr : s.get? h = some r) {f : FunctionDef}
    (hok : r.register f = .ok r') : (s.registerAt h f).1.get? h = some r' := by
  obtain ⟨o, ho, heq⟩ := registerAt_of_ok hr hok
  obtain ⟨o', ho', -, hfz⟩ := get?_eq_some_iff.1 hr
  rw [ho] at ho'
  cases ho'
  obtain ⟨hopen, -, -, rfl⟩ := Registry.register_eq_ok_iff.1 hok
  rw [heq, setTable_get?_self hs ho]
  simp [hfz, hopen]

/-! ## One step -/

section Step

variable {op : RegistryOp}

/-- The registry a step changes is the one it targets: every other registry stays as it
was. -/
theorem step_frame (hs : s.Owned) (hr : s.get? h = some r) (ht : op.target? ≠ some h) :
    (s.step op).1.get? h = some r := by
  have hlt := lt_of_get? hr
  cases op with
  | create => rw [step, alloc_get?_of_lt hs hlt, hr]
  | default =>
    simp only [step]
    split
    · rw [alloc_get?_of_lt hs hlt, hr]
    · exact hr
  | register h₀ f =>
    have hne : h ≠ h₀ := fun he => ht (by rw [he]; rfl)
    show (s.registerAt h₀ f).1.get? h = some r
    cases hr₀ : s.get? h₀ with
    | none => rw [registerAt_of_none hr₀]; exact hr
    | some r₀ =>
      cases hreg : r₀.register f with
      | error e => rw [registerAt_of_error hr₀ hreg]; exact hr
      | ok r₁ =>
        obtain ⟨o, ho, heq⟩ := registerAt_of_ok hr₀ hreg
        rw [heq, setTable_get?_of_ne hs ho hne, hr]
  | freeze h₀ =>
    have hne : h ≠ h₀ := fun he => ht (by rw [he]; rfl)
    simp only [step]
    split
    · rw [freezeAt_get?_of_ne hne, hr]
    · exact hr
  | copy h₀ =>
    simp only [step]
    split
    · rw [alloc_get?_of_lt hs hlt, hr]
    · exact hr
  | without h₀ names =>
    simp only [step]
    split
    · rw [alloc_get?_of_lt hs hlt, hr]
    · exact hr
  | parse h₀ source =>
    have hne : h ≠ h₀ := fun he => ht (by rw [he]; rfl)
    simp only [step]
    split
    · rw [freezeAt_get?_of_ne hne, hr]
    · exact hr

/-- A frozen registry is the same after every step. -/
theorem step_frozen (hs : s.Owned) (hr : s.get? h = some r) (hf : r.frozen = true) :
    (s.step op).1.get? h = some r := by
  -- only a step that targets the registry could change it
  by_cases ht : op.target? = some h
  · cases op with
    | register h₀ f =>
      cases ht
      have he : r.register f = .error (.frozen f.name) :=
        Registry.register_eq_error_iff.2 (.inl ⟨hf, rfl⟩)
      show (s.registerAt h f).1.get? h = some r
      rw [registerAt_of_error hr he]
      exact hr
    | freeze h₀ =>
      cases ht
      simp only [step, hr, freezeAt_get?_self, Option.map_some]
      cases r
      simp_all [Registry.freeze]
    | parse h₀ source =>
      cases ht
      simp only [step, hr, freezeAt_get?_self, Option.map_some]
      cases r
      simp_all [Registry.freeze]
    | create | default | copy _ | without _ _ => cases ht
  · exact step_frame hs hr ht

theorem Owned.step (hs : s.Owned) (op : RegistryOp) : (s.step op).1.Owned := by
  cases op with
  | create => exact hs.alloc
  | default =>
    simp only [Registries.step]
    split
    · exact hs.alloc
    · exact hs
  | register h f =>
    show (s.registerAt h f).1.Owned
    cases hr : s.get? h with
    | none => rw [registerAt_of_none hr]; exact hs
    | some r =>
      cases hreg : r.register f with
      | error e => rw [registerAt_of_error hr hreg]; exact hs
      | ok r' =>
        obtain ⟨o, -, heq⟩ := registerAt_of_ok hr hreg
        rw [heq]
        exact hs.setTable _ _
  | freeze h =>
    simp only [Registries.step]
    split
    · exact hs.freezeAt
    · exact hs
  | copy h =>
    simp only [Registries.step]
    split
    · exact hs.alloc
    · exact hs
  | without h names =>
    simp only [Registries.step]
    split
    · exact hs.alloc
    · exact hs
  | parse h source =>
    simp only [Registries.step]
    split
    · exact hs.freezeAt
    · exact hs

end Step

/-! ## Runs -/

/-- What every run keeps: registries own their tables, and the functions of every registry
have valid names, no name twice. -/
structure Consistent (s : Registries) : Prop where
  owned : s.Owned
  wellNamed : ∀ h r, s.get? h = some r → r.WellNamed

theorem initial_consistent : initial.Consistent where
  owned := ⟨by simp [initial], by simp [initial]⟩
  wellNamed h r hr := by
    obtain ⟨o, ho, ht, -⟩ := get?_eq_some_iff.1 hr
    have h0 : h = 0 := by
      have := (List.getElem?_eq_some_iff.1 ho).1
      simp only [initial, List.length_singleton] at this
      omega
    subst h0
    simp only [initial, List.getElem?_cons_zero, Option.some.injEq] at ho
    subst ho
    simp only [initial, List.getElem?_cons_zero, Option.some.injEq] at ht
    exact ⟨ht ▸ Registry.builtin_wellNamed.1, ht ▸ Registry.builtin_wellNamed.2⟩

theorem alloc_get?_cases (hs : s.Owned) {q : Registry} (hr : (s.alloc q).1.get? h = some r) :
    s.get? h = some r ∨ (h = s.objects.length ∧ r = q) := by
  rcases Nat.lt_or_ge h s.objects.length with hlt | hge
  · exact .inl ((alloc_get?_of_lt hs hlt).symm.trans hr)
  · have hle := lt_of_get? hr
    simp only [alloc, List.length_append, List.length_singleton] at hle
    have he : h = s.objects.length := by omega
    subst he
    rw [alloc_get?_self] at hr
    exact .inr ⟨rfl, (Option.some.inj hr).symm⟩

theorem freezeAt_get?_cases {h₀ : Nat} (hr : (s.freezeAt h₀).get? h = some r) :
    s.get? h = some r ∨ ∃ r₀, s.get? h = some r₀ ∧ r = r₀.freeze := by
  by_cases he : h = h₀
  · subst he
    rw [freezeAt_get?_self] at hr
    obtain ⟨r₀, hr₀, rfl⟩ := Option.map_eq_some_iff.1 hr
    exact .inr ⟨r₀, hr₀, rfl⟩
  · exact .inl ((freezeAt_get?_of_ne he).symm.trans hr)

theorem registerAt_get?_cases (hs : s.Owned) {h₀ : Nat} {f : FunctionDef}
    (hr : (s.registerAt h₀ f).1.get? h = some r) :
    s.get? h = some r ∨ ∃ r₀, s.get? h = some r₀ ∧ r₀.register f = .ok r := by
  cases hr₀ : s.get? h₀ with
  | none => rw [registerAt_of_none hr₀] at hr; exact .inl hr
  | some r₀ =>
    cases hreg : r₀.register f with
    | error e => rw [registerAt_of_error hr₀ hreg] at hr; exact .inl hr
    | ok r₁ =>
      obtain ⟨o, ho, heq⟩ := registerAt_of_ok hr₀ hreg
      by_cases he : h = h₀
      · subst he
        rw [registerAt_get?_self hs hr₀ hreg] at hr
        exact .inr ⟨r₀, hr₀, Option.some.inj hr ▸ hreg⟩
      · rw [heq, setTable_get?_of_ne hs ho he] at hr
        exact .inl hr

/-- A registry after a step is one that was there before, unchanged; the registry the step
targets, frozen or with one function registered; or a new registry: an empty one, or an
open copy of a registry, whole or without some functions. -/
theorem step_get?_cases (hs : s.Owned) {op : RegistryOp}
    (hr : (s.step op).1.get? h = some r) :
    s.get? h = some r ∨
    (∃ r₀, s.get? h = some r₀ ∧ (r = r₀.freeze ∨ ∃ f, r₀.register f = .ok r)) ∨
    (h = s.objects.length ∧ (r = Registry.empty ∨
      ∃ h₀ r₀, s.get? h₀ = some r₀ ∧ (r = r₀.copy ∨ ∃ names, r = r₀.without names))) := by
  -- a new registry is added at the next handle
  have fresh : ∀ {q : Registry}, (s.alloc q).1.get? h = some r →
      (q = Registry.empty ∨ ∃ h₀ r₀, s.get? h₀ = some r₀ ∧
        (q = r₀.copy ∨ ∃ names, q = r₀.without names)) →
      s.get? h = some r ∨
      (∃ r₀, s.get? h = some r₀ ∧ (r = r₀.freeze ∨ ∃ f, r₀.register f = .ok r)) ∨
      (h = s.objects.length ∧ (r = Registry.empty ∨
        ∃ h₀ r₀, s.get? h₀ = some r₀ ∧ (r = r₀.copy ∨ ∃ names, r = r₀.without names))) :=
    fun hq hkind => (alloc_get?_cases hs hq).elim .inl fun ⟨he, hrq⟩ => .inr (.inr ⟨he, hrq ▸ hkind⟩)
  cases op with
  | create => exact fresh hr (.inl rfl)
  | default =>
    simp only [step] at hr
    split at hr
    · exact fresh hr (.inr ⟨0, _, ‹_›, .inl rfl⟩)
    · exact .inl hr
  | copy h₀ =>
    simp only [step] at hr
    split at hr
    · exact fresh hr (.inr ⟨h₀, _, ‹_›, .inl rfl⟩)
    · exact .inl hr
  | without h₀ names =>
    simp only [step] at hr
    split at hr
    · exact fresh hr (.inr ⟨h₀, _, ‹_›, .inr ⟨names, rfl⟩⟩)
    · exact .inl hr
  | freeze h₀ | parse h₀ _ =>
    simp only [step] at hr
    split at hr
    · rcases freezeAt_get?_cases hr with hr | ⟨r₀, hr₀, rfl⟩
      · exact .inl hr
      · exact .inr (.inl ⟨r₀, hr₀, .inl rfl⟩)
    · exact .inl hr
  | register h₀ f =>
    rcases registerAt_get?_cases hs (show (s.registerAt h₀ f).1.get? h = some r from hr) with
      hr | ⟨r₀, hr₀, hreg⟩
    · exact .inl hr
    · exact .inr (.inl ⟨r₀, hr₀, .inr ⟨f, hreg⟩⟩)

theorem Consistent.step {s : Registries} (hs : s.Consistent) (op : RegistryOp) :
    (s.step op).1.Consistent := by
  refine ⟨hs.owned.step op, fun h r hr => ?_⟩
  rcases step_get?_cases hs.owned hr with hr | ⟨r₀, hr₀, rfl | ⟨f, hreg⟩⟩ |
      ⟨-, rfl | ⟨h₀, r₀, hr₀, rfl | ⟨names, rfl⟩⟩⟩
  · exact hs.wellNamed h r hr
  · exact hs.wellNamed h r₀ hr₀
  · exact (hs.wellNamed h r₀ hr₀).register hreg
  · exact Registry.empty_wellNamed
  · exact hs.wellNamed h₀ r₀ hr₀
  · exact (hs.wellNamed h₀ r₀ hr₀).without names

/-! ## Runs -/

theorem run_cons (s : Registries) (op : RegistryOp) (ops : List RegistryOp) :
    s.run (op :: ops) = (s.step op).1.run ops := rfl

theorem Consistent.run {s : Registries} (hs : s.Consistent) (ops : List RegistryOp) :
    (s.run ops).Consistent := by
  induction ops generalizing s with
  | nil => exact hs
  | cons op ops ih => exact ih (hs.step op)

/-- After every run, the functions of every registry have valid names, no name twice. -/
theorem run_consistent (ops : List RegistryOp) : (initial.run ops).Consistent :=
  initial_consistent.run ops

/-- A registry that no operation of a run targets is the same after the run. -/
theorem run_frame (hs : s.Owned) (hr : s.get? h = some r) (ops : List RegistryOp)
    (hops : ∀ op ∈ ops, op.target? ≠ some h) : (s.run ops).get? h = some r := by
  induction ops generalizing s with
  | nil => exact hr
  | cons op ops ih =>
    rw [run_cons]
    exact ih (hs.step op) (step_frame hs hr (hops op (List.mem_cons_self ..)))
      fun op' hop' => hops op' (List.mem_cons_of_mem _ hop')

/-- A frozen registry is the same after every run. -/
theorem run_frozen (hs : s.Owned) (hr : s.get? h = some r) (hf : r.frozen = true)
    (ops : List RegistryOp) : (s.run ops).get? h = some r := by
  induction ops generalizing s with
  | nil => exact hr
  | cons op ops ih =>
    rw [run_cons]
    exact ih (hs.step op) (step_frozen hs hr hf)

/-- The built-in registry is the same after every run. -/
theorem run_builtin (ops : List RegistryOp) : (initial.run ops).get? 0 = some Registry.builtin :=
  run_frozen initial_consistent.owned rfl rfl ops

/-! ## What each operation does -/

theorem step_copy (hr : s.get? h = some r) : s.step (.copy h) = s.alloc r.copy := by
  simp [step, hr]

theorem step_without (hr : s.get? h = some r) (names : List String) :
    s.step (.without h names) = s.alloc (r.without names) := by
  simp [step, hr]

theorem step_parse (hr : s.get? h = some r) (source : String) :
    s.step (.parse h source) = (s.freezeAt h, .parsed (Query.parse r.freeze source)) := by
  simp [step, hr]

theorem get?_length : s.get? s.objects.length = none := by
  simp [get?]

/-- A new registry, made from `q`, is found at a handle no registry had, and the existing
ones are left as they were. -/
theorem alloc_spec (hs : s.Owned) (q : Registry) :
    (s.alloc q).2 = .created s.objects.length ∧ s.get? s.objects.length = none ∧
      (s.alloc q).1.get? s.objects.length = some q ∧
      ∀ h r, s.get? h = some r → (s.alloc q).1.get? h = some r :=
  ⟨rfl, get?_length, alloc_get?_self,
    fun _ _ hr => (alloc_get?_of_lt hs (lt_of_get? hr)).trans hr⟩

/-- **Registries over every run.** After any sequence of operations from the start of a
program: the functions of every registry have valid names, no name twice; the built-in
registry holds `length`, `count`, `match`, `search` and `value` in this order, frozen;
a registry changes only by an operation on it, and a frozen one not at all. From there, a
registration is refused exactly at the first failing check among frozen, invalid name and
taken name, and then changes nothing, or it appends the function after the others; a copy,
whole or without some names, or an open copy of the built-ins, is a new open registry
holding the original's definitions in order; and reading a query freezes the registry it is
given, whatever the reading gives. -/
theorem run_invariant (ops : List RegistryOp) :
    (∀ h r, (initial.run ops).get? h = some r →
      (r.functions.map (·.name)).Nodup ∧ ∀ f ∈ r.functions, Registry.isValidName f.name = true) ∧
    ((initial.run ops).get? 0).map (fun r => (r.functions.map (·.name), r.frozen)) =
      some (["length", "count", "match", "search", "value"], true) ∧
    (∀ h r, (initial.run ops).get? h = some r → ∀ later : List RegistryOp,
      (r.frozen = true ∨ ∀ op ∈ later, op.target? ≠ some h) →
      ((initial.run ops).run later).get? h = some r) ∧
    (∀ h r f, (initial.run ops).get? h = some r →
      (∀ e, r.register f = .error e ↔
        (r.frozen = true ∧ e = .frozen f.name) ∨
        (r.frozen = false ∧ Registry.isValidName f.name = false ∧ e = .invalidName f.name) ∨
        (r.frozen = false ∧ Registry.isValidName f.name = true ∧ r.contains f.name = true ∧
          e = .duplicate f.name)) ∧
      (∀ e, r.register f = .error e →
        (initial.run ops).step (.register h f) = (initial.run ops, .registered (.error e))) ∧
      (∀ r', r.register f = .ok r' →
        ((initial.run ops).step (.register h f)).1.get? h = some ⟨r.functions ++ [f], false⟩)) ∧
    (∀ h r names, (initial.run ops).get? h = some r →
      let n := (initial.run ops).objects.length
      (initial.run ops).get? n = none ∧
      ((initial.run ops).step (.copy h)).2 = .created n ∧
      ((initial.run ops).step (.copy h)).1.get? n = some ⟨r.functions, false⟩ ∧
      ((initial.run ops).step (.without h names)).2 = .created n ∧
      ((initial.run ops).step (.without h names)).1.get? n =
        some ⟨r.functions.filter fun f => !names.contains f.name, false⟩) ∧
    ((initial.run ops).step .default).1.get? (initial.run ops).objects.length =
      some ⟨Registry.builtin.functions, false⟩ ∧
    (∀ h r source, (initial.run ops).get? h = some r →
      ((initial.run ops).step (.parse h source)).1.get? h = some ⟨r.functions, true⟩ ∧
      ((initial.run ops).step (.parse h source)).2 = .parsed (Query.parse r.freeze source)) := by
  have hc := run_consistent ops
  have hs := hc.owned
  have hb := run_builtin ops
  refine ⟨fun h r hr => hc.wellNamed h r hr, by rw [hb]; rfl, ?_, ?_, ?_, ?_, ?_⟩
  · rintro h r hr later (hf | hlater)
    · exact run_frozen hs hr hf later
    · exact run_frame hs hr later hlater
  · intro h r f hr
    refine ⟨fun e => Registry.register_eq_error_iff, fun e he => registerAt_of_error hr he,
      fun r' hok => ?_⟩
    have hself := registerAt_get?_self hs hr hok
    obtain ⟨-, -, -, rfl⟩ := Registry.register_eq_ok_iff.1 hok
    exact hself
  · intro h r names hr
    obtain ⟨hcopy, hfresh, hget, -⟩ := alloc_spec hs r.copy
    obtain ⟨hw, -, hwget, -⟩ := alloc_spec hs (r.without names)
    rw [step_copy hr, step_without hr names]
    exact ⟨hfresh, hcopy, hget, hw, hwget⟩
  · rw [show (initial.run ops).step .default = (initial.run ops).alloc Registry.builtin.copy by
      simp [step, hb]]
    exact alloc_get?_self
  · intro h r source hr
    rw [step_parse hr source, freezeAt_get?_self, hr]
    exact ⟨rfl, rfl⟩

end Registries

end JsonPath
