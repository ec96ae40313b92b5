import JsonPath.Cli.Config
import JsonPath.Proofs.ExceptRuns
import JsonPath.Proofs.JsonDocuments
import JsonPath.Proofs.Locations
import JsonPath.Proofs.Utf8Text

/-!
# Validating the config file

What loading a config file accepts, what it gives, and why it refuses the rest.

Each section asks something of each of its members. A member of `defaults` must name an option,
and the option's check must accept its value (`defaultRefusal?` says why not); a member of
`queries` must be a string that is a query (`queryRefusal?`). Both sections are read by a fold
that refuses a member for a reason of the member alone, so each section fails exactly at its
first refused member (`DefaultsRefused`, `QueriesRefused`), and the config document fails at the
first failing check in the order: its shape, its sections, the shape of `defaults`, the two
colour options, each default in order, the shape of `queries`, each saved query in order
(`ConfigRefused`, `readConfig_eq_error_iff`).

A document that passes every check gives its defaults by destination, in the order of their
members, the names of `--disable-function` apart, and its saved queries as written
(`ConfigAccepted`, `readConfig_eq_ok_iff`). This needs that every object holds each name once,
which every document read from JSON does (`Json.read_keysDistinct`).

Loading the file adds the reading of its bytes (`config_loading_validates`). Bytes without a
UTF-8 fault always read as text (`textOf?_isSome_iff`). Three failures are no refusal of the
config: bytes that are not UTF-8, a JSON integer of more digits than its conversion accepts,
and a saved query whose error names no place, which is the same conversion's. They are errors
of other kinds that loading does not handle (`LoadRefused`, `loadConfig_invalid_start_byte`).
-/

set_option autoImplicit false

namespace JsonPath.Cli

/-! ## What each section asks of a member -/

/-- The option a config file names by a key. -/
def configOption? (key : String) : Option ConfigOption := configOptions.find? (·.name == key)

/-- Why the `defaults` section refuses a member: its key names no option, or the option's check
refuses its value. -/
def defaultRefusal? (m : String × Value) : Option String :=
  match configOption? m.1 with
  | none => some ("unknown option " ++ m.1)
  | some opt =>
    match opt.check m.2 with
    | .error reason => some (m.1 ++ ": " ++ reason)
    | .ok _ => none

/-- The destination and the setting a member of a non-repeatable option gives. -/
def defaultSetting? (m : String × Value) : Option (String × Setting) :=
  (configOption? m.1).bind fun opt =>
    if opt.repeatable then none else (opt.check m.2).toOption.map (opt.dest, ·)

/-- The names of a setting that is a list of names. -/
def Setting.names? : Setting → Option (List String)
  | .names ns => some ns
  | _ => none

/-- The functions a `--disable-function` member disables. -/
def disabledNames? (m : String × Value) : Option (List String) :=
  if m.1 = "--disable-function" then (checkFunctionNames m.2).toOption.bind Setting.names?
  else none

/-- Both colour options are given. -/
def colourClash (ms : List (String × Value)) : Bool :=
  (Value.lookup ms "--color").isSome && (Value.lookup ms "--no-color").isSome

/-- Why the `queries` section refuses a member: a value that is no string, or a text that is no
query. The error of a text names a place in it, and is then a bad parameter, unless it is the
conversion's error of a too long integer, which is not handled. -/
def queryRefusal? (m : String × Value) : Option Failure :=
  match m.2 with
  | .str text =>
    match Query.parse Registry.builtin text with
    | .ok _ => none
    | .error e =>
      some (if e.span?.isSome then
          malformed ("saved query " ++ Text.quote m.1 ++ " is invalid: " ++ e.message)
        else .fault e.kind e.message)
  | _ => some (malformed ("saved query " ++ Text.quote m.1 ++ " must be a string"))

/-- The name and text of a saved query. -/
def savedQuery? (m : String × Value) : Option (String × String) :=
  match m.2 with
  | .str text => some (m.1, text)
  | _ => none

/-- The names of a config's sections other than `defaults` and `queries`, sorted. -/
def unknownSections (ms : List (String × Value)) : List String :=
  sortNames ((ms.map (·.1)).filter fun k => k ≠ "defaults" && k ≠ "queries")

/-- A section of a config document; an empty object when it is not given. -/
def configSection (ms : List (String × Value)) (name : String) : Value :=
  (Value.lookup ms name).getD (.obj [])

/-! ## The options -/

theorem configOption?_eq_some {key : String} {opt : ConfigOption}
    (h : configOption? key = some opt) : opt ∈ configOptions ∧ opt.name = key := by
  refine ⟨List.mem_of_find?_eq_some h, ?_⟩
  simpa using List.find?_some h

/-- The only repeatable option is `--disable-function`, checked as a list of function names. -/
theorem configOptions_repeatable :
    ∀ o ∈ configOptions, (o.repeatable = true ↔ o.name = "--disable-function") ∧
      (o.name = "--disable-function" → o.check = checkFunctionNames) := by
  intro o ho
  simp only [configOptions, List.mem_cons, List.not_mem_nil, or_false] at ho
  rcases ho with rfl | rfl | rfl | rfl | rfl | rfl | rfl | rfl | rfl <;> simp

/-- Two options share a destination only when they are one option or the two colour options. -/
theorem configOptions_dest :
    ∀ o₁ ∈ configOptions, ∀ o₂ ∈ configOptions, o₁.dest = o₂.dest →
      o₁.name = o₂.name ∨ (o₁.name = "--color" ∧ o₂.name = "--no-color") ∨
        (o₁.name = "--no-color" ∧ o₂.name = "--color") := by
  intro o₁ h₁ o₂ h₂
  simp only [configOptions, List.mem_cons, List.not_mem_nil, or_false] at h₁ h₂
  rcases h₁ with rfl | rfl | rfl | rfl | rfl | rfl | rfl | rfl | rfl <;>
    rcases h₂ with rfl | rfl | rfl | rfl | rfl | rfl | rfl | rfl | rfl <;> simp

theorem checkFunctionNames_eq_ok {v : Value} {s : Setting} (h : checkFunctionNames v = .ok s) :
    ∃ ns, s = .names ns := by
  unfold checkFunctionNames at h
  split at h
  · split at h
    · simp only at h
      split_ifs at h
      cases h
      exact ⟨_, rfl⟩
    · cases h
  · cases h

theorem lookup_isSome_of_mem {ms : List (String × Value)} {m : String × Value} (hm : m ∈ ms) :
    (Value.lookup ms m.1).isSome := by
  simp only [Value.lookup, Option.isSome_map, List.find?_isSome, beq_iff_eq]
  exact ⟨m, hm, rfl⟩

/-! ## The `defaults` section -/

/-- How the `defaults` section is refused: by its shape, by both colour options, or at its first
member that names no option or whose value its option refuses. -/
inductive DefaultsRefused : Value → Failure → Prop
  | notObject {v : Value} : (∀ ms, v ≠ .obj ms) →
      DefaultsRefused v (malformed "defaults must be an object")
  | colours {ms : List (String × Value)} : colourClash ms = true →
      DefaultsRefused (.obj ms) (malformed "--color and --no-color are mutually exclusive")
  | member {pre post : List (String × Value)} {m : String × Value} {reason : String} :
      colourClash (pre ++ m :: post) = false → (∀ x ∈ pre, defaultRefusal? x = none) →
      defaultRefusal? m = some reason → DefaultsRefused (.obj (pre ++ m :: post)) (malformed reason)

/-- The `defaults` section is accepted: an object without both colour options, whose every
member its option accepts. -/
def DefaultsAccepted (v : Value) : Prop :=
  ∃ ms, v = .obj ms ∧ colourClash ms = false ∧ ∀ m ∈ ms, defaultRefusal? m = none

/-- What the `defaults` section has gathered after an accepted member. -/
def recordDefault (acc : List (String × Setting) × Option (List String)) (m : String × Value) :
    List (String × Setting) × Option (List String) :=
  ((defaultSetting? m).elim acc.1 fun d => putSetting acc.1 d.1 d.2, (disabledNames? m).or acc.2)

/-- The section reads its members by a fold that refuses a member for a reason of its own and
otherwise records it. -/
theorem readDefaults_obj (ms : List (String × Value)) :
    readDefaults (.obj ms) =
      if colourClash ms then .error (malformed "--color and --no-color are mutually exclusive")
      else ms.foldlM (fun acc m => (defaultRefusal? m).elim (.ok (recordDefault acc m))
        fun r => .error (malformed r)) ([], none) := by
  rw [readDefaults]
  show (if colourClash ms then _ else _) = _
  split_ifs
  · rfl
  · congr 1
    funext acc m
    obtain ⟨key, v⟩ := m
    simp only [defaultRefusal?, recordDefault, defaultSetting?, disabledNames?, configOption?]
    cases hopt : configOptions.find? (·.name == key) with
    | none => rfl
    | some opt =>
      obtain ⟨hmem, hname⟩ := configOption?_eq_some hopt
      obtain ⟨hrep, hcheck⟩ := configOptions_repeatable opt hmem
      cases hc : opt.check v with
      | error reason => simp [hc]
      | ok s =>
        by_cases hd : key = "--disable-function"
        · -- the repeatable option: its names replace those before, and it sets no destination
          have hr : opt.repeatable = true := hrep.2 (hname.trans hd)
          have hf : checkFunctionNames v = .ok s := hcheck (hname.trans hd) ▸ hc
          obtain ⟨ns, rfl⟩ := checkFunctionNames_eq_ok hf
          simp [hc, hr, hd, hf, Setting.names?, Except.toOption]
        · have hr : opt.repeatable = false := by
            simpa [hname, hd] using hrep
          cases s <;> simp [hc, hr, hd, Except.toOption]

theorem readDefaults_eq_error_iff (v : Value) (f : Failure) :
    readDefaults v = .error f ↔ DefaultsRefused v f := by
  by_cases hv : ∃ ms, v = .obj ms
  · obtain ⟨ms, rfl⟩ := hv
    rw [readDefaults_obj]
    cases hc : colourClash ms
    · -- without both colour options, the fold fails at its first refused member
      rw [if_neg (by simp), foldlM_refusing_eq_error_iff defaultRefusal? malformed recordDefault
        (fun _ _ => rfl)]
      constructor
      · rintro ⟨pre, m, post, r, rfl, hpre, hm, rfl⟩
        exact .member hc hpre hm
      · intro h
        cases h with
        | notObject hn => exact absurd rfl (hn ms)
        | colours h => exact absurd (hc.symm.trans h) (by decide)
        | member _ hpre hm => exact ⟨_, _, _, _, rfl, hpre, hm, rfl⟩
    · rw [if_pos rfl]
      constructor
      · rintro ⟨⟩
        exact .colours hc
      · intro h
        cases h with
        | notObject hn => exact absurd rfl (hn ms)
        | colours => rfl
        | member h => exact absurd (hc.symm.trans h) (by decide)
  · simp only [not_exists] at hv
    have hnot : readDefaults v = .error (malformed "defaults must be an object") := by
      cases v <;> first | rfl | exact absurd rfl (hv _)
    rw [hnot]
    constructor
    · rintro ⟨⟩
      exact .notObject hv
    · intro h
      cases h with
      | notObject => rfl
      | colours => exact absurd rfl (hv _)
      | member => exact absurd rfl (hv _)

theorem readDefaults_obj_eq_ok_iff (ms : List (String × Value))
    (r : List (String × Setting) × Option (List String)) :
    readDefaults (.obj ms) = .ok r ↔ colourClash ms = false ∧
      (∀ m ∈ ms, defaultRefusal? m = none) ∧ r = ms.foldl recordDefault ([], none) := by
  rw [readDefaults_obj]
  cases hc : colourClash ms
  · rw [if_neg (by simp), foldlM_refusing_eq_ok_iff defaultRefusal? malformed recordDefault
      (fun _ _ => rfl)]
    simp
  · simp

theorem readDefaults_isOk_iff (v : Value) :
    (∃ r, readDefaults v = .ok r) ↔ DefaultsAccepted v := by
  constructor
  · rintro ⟨r, h⟩
    cases v with
    | obj ms =>
      obtain ⟨hc, hall, -⟩ := (readDefaults_obj_eq_ok_iff ms r).1 h
      exact ⟨ms, rfl, hc, hall⟩
    | _ => cases h
  · rintro ⟨ms, rfl, hc, hall⟩
    exact ⟨_, (readDefaults_obj_eq_ok_iff ms _).2 ⟨hc, hall, rfl⟩⟩

/-! ## What the `defaults` section gives -/

theorem putSetting_of_not_mem {acc : List (String × Setting)} {d : String} (s : Setting)
    (h : d ∉ acc.map (·.1)) : putSetting acc d s = acc ++ [(d, s)] := by
  have hnone : acc.any (·.1 == d) = false := by
    rw [List.any_eq_false]
    intro x hx hxd
    exact h (List.mem_map.2 ⟨x, hx, by simpa using hxd⟩)
  simp [putSetting, hnone]

theorem defaultSetting?_eq_some {m : String × Value} {d : String × Setting}
    (h : defaultSetting? m = some d) :
    ∃ opt, opt ∈ configOptions ∧ opt.name = m.1 ∧ opt.dest = d.1 := by
  simp only [defaultSetting?, Option.bind_eq_some_iff] at h
  obtain ⟨opt, hopt, h⟩ := h
  obtain ⟨hmem, hname⟩ := configOption?_eq_some hopt
  split_ifs at h
  obtain ⟨s, -, rfl⟩ := Option.map_eq_some_iff.1 h
  exact ⟨opt, hmem, hname, rfl⟩

/-- Members named `--color` and `--no-color` make the clash the section refuses. -/
theorem colourClash_of_mem {ms : List (String × Value)} {m₁ m₂ : String × Value} (h₁ : m₁ ∈ ms)
    (h₂ : m₂ ∈ ms) (hc₁ : m₁.1 = "--color") (hc₂ : m₂.1 = "--no-color") :
    colourClash ms = true := by
  have hsome₁ := lookup_isSome_of_mem h₁
  have hsome₂ := lookup_isSome_of_mem h₂
  rw [hc₁] at hsome₁
  rw [hc₂] at hsome₂
  simp [colourClash, hsome₁, hsome₂]

/-- Members with distinct names, without both colour options, set distinct destinations. -/
theorem defaultDests_nodup {ms : List (String × Value)} (hnd : (ms.map (·.1)).Nodup)
    (hclash : colourClash ms = false) : ((ms.filterMap defaultSetting?).map (·.1)).Nodup := by
  rw [List.map_filterMap]
  refine (List.Pairwise.and_mem.1 (List.pairwise_map.1 hnd)).filterMap _ ?_
  rintro m₁ m₂ ⟨h₁, h₂, hne⟩ d hd₁ d' hd₂ rfl
  obtain ⟨s₁, hs₁, rfl⟩ := Option.map_eq_some_iff.1 hd₁
  obtain ⟨s₂, hs₂, hd⟩ := Option.map_eq_some_iff.1 hd₂
  obtain ⟨o₁, ho₁, hn₁, hdest₁⟩ := defaultSetting?_eq_some hs₁
  obtain ⟨o₂, ho₂, hn₂, hdest₂⟩ := defaultSetting?_eq_some hs₂
  rcases configOptions_dest o₁ ho₁ o₂ ho₂ (hdest₁.trans (hd ▸ hdest₂.symm)) with
    h | ⟨hc₁, hc₂⟩ | ⟨hc₁, hc₂⟩
  · exact hne (hn₁ ▸ hn₂ ▸ h)
  -- the two colour options both given: the clash the section checks first
  · rw [colourClash_of_mem h₁ h₂ (hn₁.symm.trans hc₁) (hn₂.symm.trans hc₂)] at hclash
    cases hclash
  · rw [colourClash_of_mem h₂ h₁ (hn₂.symm.trans hc₂) (hn₁.symm.trans hc₁)] at hclash
    cases hclash

/-- The fold over accepted members with new destinations appends each setting, and keeps the
last names of `--disable-function`. -/
theorem foldl_recordDefault (ms : List (String × Value)) (d₀ : List (String × Setting))
    (x₀ : Option (List String)) (hnd : ((d₀ ++ ms.filterMap defaultSetting?).map (·.1)).Nodup) :
    ms.foldl recordDefault (d₀, x₀) =
      (d₀ ++ ms.filterMap defaultSetting?, (ms.filterMap disabledNames?).getLast?.or x₀) := by
  induction ms generalizing d₀ x₀ with
  | nil => simp
  | cons m ms ih =>
    have hdis : ((m :: ms).filterMap disabledNames?).getLast?.or x₀ =
        (ms.filterMap disabledNames?).getLast?.or ((disabledNames? m).or x₀) := by
      cases hm : disabledNames? m with
      | none => simp [hm]
      | some ns =>
        simp only [List.filterMap_cons, hm, List.getLast?_cons]
        cases (ms.filterMap disabledNames?).getLast? <;> rfl
    rw [List.foldl_cons, hdis]
    cases hs : defaultSetting? m with
    | none =>
      simp only [List.filterMap_cons, hs] at hnd ⊢
      have hrec : recordDefault (d₀, x₀) m = (d₀, (disabledNames? m).or x₀) := by
        simp [recordDefault, hs]
      rw [hrec]
      exact ih d₀ _ hnd
    | some d =>
      simp only [List.filterMap_cons, hs] at hnd ⊢
      have hnew : d.1 ∉ d₀.map (·.1) := by
        simp only [List.map_append, List.map_cons, List.nodup_append] at hnd
        exact fun h => hnd.2.2 _ h _ List.mem_cons_self rfl
      have hrec : recordDefault (d₀, x₀) m = (d₀ ++ [d], (disabledNames? m).or x₀) := by
        simp [recordDefault, hs, putSetting_of_not_mem d.2 hnew]
      rw [hrec, ih _ _ (by simpa using hnd)]
      simp

/-- An accepted `defaults` section of members with distinct names gives the setting of each
member under its destination, in the order of the members, and the names of the last
`--disable-function`. -/
theorem readDefaults_eq_ok_iff {v : Value} (hv : v.KeysDistinct)
    (r : List (String × Setting) × Option (List String)) :
    readDefaults v = .ok r ↔ ∃ ds, v = .obj ds ∧ colourClash ds = false ∧
      (∀ m ∈ ds, defaultRefusal? m = none) ∧
      r = (ds.filterMap defaultSetting?, (ds.filterMap disabledNames?).getLast?) := by
  cases v with
  | obj ds =>
    have hfold : colourClash ds = false → ds.foldl recordDefault ([], none) =
        (ds.filterMap defaultSetting?, (ds.filterMap disabledNames?).getLast?) := by
      intro hc
      have hnd := defaultDests_nodup hv.1 hc
      rw [foldl_recordDefault ds [] none (by simpa using hnd)]
      simp
    rw [readDefaults_obj_eq_ok_iff]
    constructor
    · rintro ⟨hc, hall, rfl⟩
      exact ⟨ds, rfl, hc, hall, hfold hc⟩
    · rintro ⟨ds', h, hc, hall, rfl⟩
      cases h
      exact ⟨hc, hall, (hfold hc).symm⟩
  | _ => simp [readDefaults]

/-! ## The `queries` section -/

/-- How the `queries` section is refused: by its shape, or at its first member that is no
string or no query. -/
inductive QueriesRefused : Value → Failure → Prop
  | notObject {v : Value} : (∀ ms, v ≠ .obj ms) →
      QueriesRefused v (malformed "queries must be an object")
  | member {pre post : List (String × Value)} {m : String × Value} {f : Failure} :
      (∀ x ∈ pre, queryRefusal? x = none) → queryRefusal? m = some f →
      QueriesRefused (.obj (pre ++ m :: post)) f

/-- The `queries` section is accepted: an object of strings that are queries. -/
def QueriesAccepted (v : Value) : Prop :=
  ∃ ms, v = .obj ms ∧ ∀ m ∈ ms, queryRefusal? m = none

/-- What the `queries` section has gathered after an accepted member. -/
def recordQuery (acc : List (String × String)) (m : String × Value) : List (String × String) :=
  acc ++ (savedQuery? m).toList

theorem readQueries_obj (ms : List (String × Value)) :
    readQueries (.obj ms) =
      ms.foldlM (fun acc m => (queryRefusal? m).elim (.ok (recordQuery acc m)) .error) [] := by
  rw [readQueries]
  congr 1
  funext acc m
  obtain ⟨name, v⟩ := m
  simp only [queryRefusal?, recordQuery, savedQuery?]
  cases v with
  | str text =>
    cases hp : Query.parse Registry.builtin text with
    | ok q => simp [hp]
    | error e => cases hs : e.span? <;> simp [hp, hs]
  | _ => rfl

theorem readQueries_eq_error_iff (v : Value) (f : Failure) :
    readQueries v = .error f ↔ QueriesRefused v f := by
  by_cases hv : ∃ ms, v = .obj ms
  · obtain ⟨ms, rfl⟩ := hv
    rw [readQueries_obj, foldlM_refusing_eq_error_iff queryRefusal? (fun f => f) recordQuery (fun _ _ => rfl)]
    constructor
    · rintro ⟨pre, m, post, r, rfl, hpre, hm, rfl⟩
      exact .member hpre hm
    · intro h
      cases h with
      | notObject hn => exact absurd rfl (hn ms)
      | member hpre hm => exact ⟨_, _, _, _, rfl, hpre, hm, rfl⟩
  · simp only [not_exists] at hv
    have hnot : readQueries v = .error (malformed "queries must be an object") := by
      cases v <;> first | rfl | exact absurd rfl (hv _)
    rw [hnot]
    constructor
    · rintro ⟨⟩
      exact .notObject hv
    · intro h
      cases h with
      | notObject => rfl
      | member => exact absurd rfl (hv _)

theorem foldl_recordQuery (ms : List (String × Value)) (acc : List (String × String)) :
    ms.foldl recordQuery acc = acc ++ ms.filterMap savedQuery? := by
  induction ms generalizing acc with
  | nil => simp
  | cons m ms ih =>
    rw [List.foldl_cons, ih]
    cases h : savedQuery? m <;> simp [recordQuery, h]

/-- An accepted `queries` section gives its members as written. -/
theorem readQueries_obj_eq_ok_iff (ms : List (String × Value)) (r : List (String × String)) :
    readQueries (.obj ms) = .ok r ↔
      (∀ m ∈ ms, queryRefusal? m = none) ∧ r = ms.filterMap savedQuery? := by
  rw [readQueries_obj, foldlM_refusing_eq_ok_iff queryRefusal? (fun f => f) recordQuery (fun _ _ => rfl),
    foldl_recordQuery, List.nil_append]

theorem readQueries_eq_ok_iff (v : Value) (r : List (String × String)) :
    readQueries v = .ok r ↔ ∃ qs, v = .obj qs ∧ (∀ m ∈ qs, queryRefusal? m = none) ∧
      r = qs.filterMap savedQuery? := by
  cases v with
  | obj qs => simp [readQueries_obj_eq_ok_iff]
  | _ => simp [readQueries]

/-! ## The config document -/

/-- How a config document is refused, at its first failing check: its shape, its sections, the
`defaults` section, the `queries` section. -/
inductive ConfigRefused : Value → Failure → Prop
  | notObject {doc : Value} : (∀ ms, doc ≠ .obj ms) →
      ConfigRefused doc (malformed "expected a JSON object")
  | sections {ms : List (String × Value)} : unknownSections ms ≠ [] →
      ConfigRefused (.obj ms)
        (malformed ("unknown section(s) " ++ ", ".intercalate (unknownSections ms)))
  | defaults {ms : List (String × Value)} {f : Failure} : unknownSections ms = [] →
      DefaultsRefused (configSection ms "defaults") f → ConfigRefused (.obj ms) f
  | queries {ms : List (String × Value)} {f : Failure} : unknownSections ms = [] →
      DefaultsAccepted (configSection ms "defaults") →
      QueriesRefused (configSection ms "queries") f → ConfigRefused (.obj ms) f

/-- A config document that passes every check, and the config it gives: the settings of its
defaults in their order, the names of its last `--disable-function`, and its saved queries. -/
def ConfigAccepted (doc : Value) (c : Config) : Prop :=
  ∃ ms ds qs, doc = .obj ms ∧ unknownSections ms = [] ∧
    configSection ms "defaults" = .obj ds ∧ colourClash ds = false ∧
    (∀ m ∈ ds, defaultRefusal? m = none) ∧
    configSection ms "queries" = .obj qs ∧ (∀ m ∈ qs, queryRefusal? m = none) ∧
    c = ⟨ds.filterMap defaultSetting?, (ds.filterMap disabledNames?).getLast?,
      qs.filterMap savedQuery?⟩

theorem readConfig_obj (ms : List (String × Value)) :
    readConfig (.obj ms) =
      if unknownSections ms = [] then
        (readDefaults (configSection ms "defaults")).bind fun d =>
          (readQueries (configSection ms "queries")).bind fun q => .ok ⟨d.1, d.2, q⟩
      else .error (malformed ("unknown section(s) " ++ ", ".intercalate (unknownSections ms))) := by
  rw [readConfig]
  show (if (!(unknownSections ms).isEmpty) = true then _ else _) = _
  by_cases hu : unknownSections ms = []
  · rw [if_neg (by simp [hu]), if_pos hu]
    rfl
  · rw [if_pos (by simpa using hu), if_neg hu]
    rfl

/-- A config object of known sections only is refused by its `defaults` section, or, that
section accepted, by its `queries` section. -/
theorem configRefused_obj_iff {ms : List (String × Value)} {f : Failure}
    (hu : unknownSections ms = []) :
    ConfigRefused (.obj ms) f ↔ DefaultsRefused (configSection ms "defaults") f ∨
      DefaultsAccepted (configSection ms "defaults") ∧
        QueriesRefused (configSection ms "queries") f := by
  constructor
  · intro h
    cases h with
    | notObject hn => exact absurd rfl (hn ms)
    | sections h => exact absurd hu h
    | defaults _ h => exact .inl h
    | queries _ hacc h => exact .inr ⟨hacc, h⟩
  · rintro (h | ⟨hacc, h⟩)
    exacts [.defaults hu h, .queries hu hacc h]

theorem readConfig_eq_error_iff (doc : Value) (f : Failure) :
    readConfig doc = .error f ↔ ConfigRefused doc f := by
  by_cases hv : ∃ ms, doc = .obj ms
  · obtain ⟨ms, rfl⟩ := hv
    rw [readConfig_obj]
    by_cases hu : unknownSections ms = []
    · -- `defaults` is read first, and `queries` only once `defaults` is accepted
      rw [if_pos hu, configRefused_obj_iff hu, ← readDefaults_eq_error_iff,
        ← readDefaults_isOk_iff, ← readQueries_eq_error_iff]
      cases readDefaults (configSection ms "defaults") <;>
        cases readQueries (configSection ms "queries") <;> simp [Except.bind]
    · rw [if_neg hu]
      constructor
      · rintro ⟨⟩
        exact .sections hu
      · intro h
        cases h with
        | notObject hn => exact absurd rfl (hn ms)
        | sections => rfl
        | defaults h => exact absurd h hu
        | queries h => exact absurd h hu
  · simp only [not_exists] at hv
    have hnot : readConfig doc = .error (malformed "expected a JSON object") := by
      cases doc <;> first | rfl | exact absurd rfl (hv _)
    rw [hnot]
    constructor
    · rintro ⟨⟩
      exact .notObject hv
    · intro h
      cases h with
      | notObject => rfl
      | sections => exact absurd rfl (hv _)
      | defaults => exact absurd rfl (hv _)
      | queries => exact absurd rfl (hv _)

theorem configSection_keysDistinct {ms : List (String × Value)} (h : (Value.obj ms).KeysDistinct)
    (name : String) : (configSection ms name).KeysDistinct := by
  unfold configSection
  cases hl : Value.lookup ms name with
  | none => simp [Value.KeysDistinct, Value.MembersKeysDistinct]
  | some v =>
    simp only [Value.KeysDistinct, Value.membersKeysDistinct_iff] at h
    exact h.2 _ (Value.mem_of_lookup_eq_some hl)

/-- A config document whose objects hold each name once is accepted exactly when it passes
every check, and then gives its defaults and saved queries. -/
theorem readConfig_eq_ok_iff {doc : Value} (hdoc : doc.KeysDistinct) (c : Config) :
    readConfig doc = .ok c ↔ ConfigAccepted doc c := by
  cases doc with
  | obj ms =>
    rw [readConfig_obj]
    by_cases hu : unknownSections ms = []
    · rw [if_pos hu]
      have hds := readDefaults_eq_ok_iff (configSection_keysDistinct hdoc "defaults")
      have hqs := readQueries_eq_ok_iff (configSection ms "queries")
      constructor
      · intro h
        cases hd : readDefaults (configSection ms "defaults") with
        | error => rw [hd] at h; cases h
        | ok d =>
          cases hq : readQueries (configSection ms "queries") with
          | error => rw [hd, hq] at h; cases h
          | ok q =>
            rw [hd, hq] at h
            cases h
            obtain ⟨ds, hds, hc, hall, rfl⟩ := (hds d).1 hd
            obtain ⟨qs, hqs, hqall, rfl⟩ := (hqs q).1 hq
            exact ⟨ms, ds, qs, rfl, hu, hds, hc, hall, hqs, hqall, rfl⟩
      · rintro ⟨ms', ds, qs, h, -, hdsec, hc, hall, hqsec, hqall, rfl⟩
        cases h
        rw [(hds _).2 ⟨ds, hdsec, hc, hall, rfl⟩, (hqs _).2 ⟨qs, hqsec, hqall, rfl⟩]
        rfl
    · rw [if_neg hu]
      constructor
      · rintro ⟨⟩
      · rintro ⟨ms', ds, qs, h, hu', -⟩
        cases h
        exact absurd hu' hu
  | _ =>
    constructor
    · rintro ⟨⟩
    · rintro ⟨ms, ds, qs, h, -⟩
      cases h

/-! ## Loading the config file -/

/-- How loading the config file fails. A file that cannot be read, text that is no JSON and a
document that fails a check are refusals of the config; bytes that are not UTF-8 and an integer
of too many digits are errors of reading it that loading does not handle. -/
inductive LoadRefused (path : String) : FileState → Failure → Prop
  | unreadable {state : FileState} : state ≠ .missing → (∀ data, state ≠ .bytes data) →
      LoadRefused path state (malformed ("cannot read " ++ path))
  | notUtf8 {data : ByteArray} {fault : Text.Utf8Fault} :
      Text.utf8Fault? 0 data.toList = some fault →
      LoadRefused path (.bytes data) (.fault "UnicodeDecodeError" fault.message)
  | noText {data : ByteArray} : Text.utf8Fault? 0 data.toList = none → textOf? data = none →
      LoadRefused path (.bytes data) (malformed ("cannot read " ++ path))
  | notJson {data : ByteArray} {text message : String} {pos : Nat} :
      Text.utf8Fault? 0 data.toList = none → textOf? data = some text →
      Json.read text = .error (.invalid message pos) →
      LoadRefused path (.bytes data) (malformed ("cannot read " ++ path))
  | tooManyDigits {data : ByteArray} {text : String} {digits : Nat} :
      Text.utf8Fault? 0 data.toList = none → textOf? data = some text →
      Json.read text = .error (.tooManyDigits digits) →
      LoadRefused path (.bytes data) (.fault "ValueError" (Syntax.tooManyDigitsMessage digits))
  | refused {data : ByteArray} {text : String} {doc : Value} {f : Failure} :
      Text.utf8Fault? 0 data.toList = none → textOf? data = some text →
      Json.read text = .ok doc → ConfigRefused doc f → LoadRefused path (.bytes data) f

/-- The bytes of a byte array, read one at a time, are the bytes of its array. -/
theorem byteArray_toList_loop (bs : ByteArray) (i : Nat) (r : List UInt8) :
    ByteArray.toList.loop bs i r = r.reverse ++ bs.data.toList.drop i := by
  fun_induction ByteArray.toList.loop bs i r with
  | case1 i r h ih =>
    rw [ih, List.reverse_cons, List.append_assoc]
    congr 1
    have hi : i < bs.data.toList.length := by
      rw [Array.length_toList]
      exact h
    rw [List.drop_eq_getElem_cons hi]
    simp only [ByteArray.get!, List.singleton_append, Array.getElem_toList]
    rw [getElem!_pos bs.data i h]
  | case2 i r h =>
    have hi : bs.data.toList.length ≤ i := by
      rw [Array.length_toList]
      exact Nat.le_of_not_lt h
    simp [List.drop_eq_nil_of_le hi]

theorem byteArray_toList (bs : ByteArray) : bs.toList = bs.data.toList := by
  simp [ByteArray.toList, byteArray_toList_loop]

/-- Bytes read as text exactly when they have no UTF-8 fault, so a config file is never refused
for want of text (`LoadRefused.noText`) once its bytes pass the decoder. -/
theorem textOf?_isSome_iff (data : ByteArray) :
    (textOf? data).isSome ↔ Text.utf8Fault? 0 data.toList = none := by
  rw [Text.utf8Fault?_eq_none_iff, byteArray_toList]
  simp only [textOf?, Option.isSome_map, String.fromUTF8?]
  constructor
  · intro h
    split at h
    · rename_i hvalid
      obtain ⟨cs, rfl⟩ := hvalid
      exact ⟨cs, List.toList_data_toByteArray⟩
    · cases h
  · rintro ⟨cs, hcs⟩
    have hvalid : data.IsValidUTF8 := by
      refine ⟨cs, ByteArray.ext ?_⟩
      rw [← Array.toList_inj, hcs]
      exact List.toList_data_toByteArray.symm
    rw [dif_pos hvalid]
    rfl

theorem loadConfig_eq_error_iff (path : String) (state : FileState) (f : Failure) :
    loadConfig path state = .error f ↔ LoadRefused path state f := by
  constructor
  · intro h
    cases state with
    | missing => cases h
    | directory =>
      cases h
      exact .unreadable (by simp) (by simp)
    | denied =>
      cases h
      exact .unreadable (by simp) (by simp)
    | bytes data =>
      cases hu : Text.utf8Fault? 0 data.toList with
      | some fault =>
        simp only [loadConfig, hu] at h
        cases h
        exact .notUtf8 hu
      | none =>
        cases ht : textOf? data with
        | none =>
          simp only [loadConfig, hu, ht] at h
          cases h
          exact .noText hu ht
        | some text =>
          cases hr : Json.read text with
          | ok doc =>
            simp only [loadConfig, hu, ht, hr] at h
            exact .refused hu ht hr ((readConfig_eq_error_iff _ _).1 h)
          | error e =>
            cases e with
            | invalid message pos =>
              simp only [loadConfig, hu, ht, hr] at h
              cases h
              exact .notJson hu ht hr
            | tooManyDigits digits =>
              simp only [loadConfig, hu, ht, hr] at h
              cases h
              exact .tooManyDigits hu ht hr
  · intro h
    cases h with
    | unreadable hmissing hbytes =>
      cases state with
      | missing => exact absurd rfl hmissing
      | bytes data => exact absurd rfl (hbytes data)
      | _ => rfl
    | notUtf8 hu => simp [loadConfig, hu]
    | noText hu ht => simp [loadConfig, hu, ht]
    | notJson hu ht hr => simp [loadConfig, hu, ht, hr]
    | tooManyDigits hu ht hr => simp [loadConfig, hu, ht, hr]
    | refused hu ht hr hc => simp [loadConfig, hu, ht, hr, (readConfig_eq_error_iff _ _).2 hc]

theorem loadConfig_eq_ok_iff (path : String) (state : FileState) (c : Config) :
    loadConfig path state = .ok c ↔ (state = .missing ∧ c = Config.empty) ∨
      ∃ data text doc, state = .bytes data ∧ Text.utf8Fault? 0 data.toList = none ∧
        textOf? data = some text ∧ Json.read text = .ok doc ∧ ConfigAccepted doc c := by
  cases state with
  | missing =>
    simp only [loadConfig, Except.ok.injEq, true_and, reduceCtorEq, false_and, exists_false,
      or_false]
    exact eq_comm
  | bytes data =>
    cases hu : Text.utf8Fault? 0 data.toList with
    | some fault => simp [loadConfig, hu]
    | none =>
      cases ht : textOf? data with
      | none => simp [loadConfig, hu, ht]
      | some text =>
        cases hr : Json.read text with
        | ok doc =>
          simp [loadConfig, hu, ht, hr, readConfig_eq_ok_iff (Json.read_keysDistinct hr)]
        | error e => cases e <;> simp [loadConfig, hu, ht, hr]
  | _ => simp [loadConfig]

end JsonPath.Cli
