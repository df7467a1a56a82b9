import MediaQuery.Proofs.Settings.Loading
import MediaQuery.Proofs.Settings.Variables

/-!
# Files and variables

Settings are read from a file and from variables. An environment is made of two mappings, what the
file says (`fileEnvironments`) and what variables say (`Variables.environmentEntries`), the latter
laid over the former (`exists_entries_of_environment`), so that each of its fields is taken from the
one or the other (`environment_precedence`).

The mappings are laid by the keys as they are written, while a field has two names. A variable wins
over the file if it spells the field as the file does, or if the file has no value under the name of
the field in queries. If the variable has the name with underscores and the file has the other one,
the file wins (`file_over_variable`).
-/

namespace MediaQuery

open EnvironmentRecord

namespace Settings

variable {files : Files} {vars : Variables} {path : Option String} {read : Yaml.Reader}
  {s : Settings} {n : String}

/-! ### Environments of loaded settings -/

/-- What a file says about environments. -/
def fileEnvironments (files : Files) (vars : Variables) (path : Option String)
    (read : Yaml.Reader) : Value :=
  (givenGroup? (fileEntries files vars path read) .environments).getD .null

/-- A dictionary over a tree, of which either may be missing. -/
theorem get?_merged (top : Dict Value) (given : Option Value) :
    ((merged given top.tree?).getD .null).entries.get? (.text n) =
      ((top.get? n).map (overlay ((given.getD .null).part n))).or
        ((given.getD .null).entries.get? (.text n)) := by
  rw [← get?_overlay]
  cases htop : top.tree? with
  | none =>
    have hentries : top.entries = [] := by rw [← Dict.entries_tree?, htop]; rfl
    rw [hentries]
    cases given with
    | none => rfl
    | some w => cases w <;> simp [merged, overlay, overlayEntries, Value.entries]
  | some v =>
    obtain rfl : v = .map top.entries := Dict.eq_of_tree?_eq_some htop
    cases given with
    | none => simp [merged, overlay]
    | some w => simp [merged]

/-- **The environments of loaded settings**, each made of what the file says with what the variables
say laid over it. -/
theorem environment?_of_load (h : load files vars path read = .ok s)
    (hgroup : ∀ p ∈ vars, lowerName p.1 ≠ SettingsGroup.environments.variableName) (n : String) :
    (s.environment? n).map Except.ok =
      ((((Variables.nested .environments vars.lowered).get? n).map
        (overlay ((fileEnvironments files vars path read).part n))).or
        ((fileEnvironments files vars path read).entries.get? (.text n))).map
          EnvironmentRecord.ofValue := by
  obtain ⟨_, _, top, htop, hgroups⟩ := exists_ofGroups (ofEntries_of_load h)
  obtain rfl := Except.ok.inj ((Variables.group?_environments hgroup).symm.trans htop)
  rw [environment?, fileEnvironments, ← get?_merged]
  rcases (checked_of_ofGroups hgroups).2 with ⟨hnone, hempty⟩ | ⟨v, hv, hchecked⟩
  · rw [hnone, hempty]
    rfl
  · rw [hv]
    exact lookup_checked hchecked n

/-! ### Fields -/

variable {r : EnvironmentRecord} {key text : String}

/-- Entries that hold, under each key, what one mapping says laid over what a tree says. -/
def Laid (file : Value) (top es : Entries Value) : Prop :=
  ∀ key, es.get? (.text key) =
    ((top.get? (.text key)).map (overlay (file.part key))).or (file.entries.get? (.text key))

/-- The entries that an environment is made of. -/
theorem exists_entries_of_environment (h : load files vars path read = .ok s)
    (hgroup : ∀ p ∈ vars, lowerName p.1 ≠ SettingsGroup.environments.variableName)
    (hn : vars.OnlyFields n) (hr : s.environment? n = some r) :
    ∃ es, EnvironmentRecord.ofEntries es = .ok r ∧
      Laid ((fileEnvironments files vars path read).part n) (vars.environmentEntries n) es := by
  have hmade := environment?_of_load h hgroup n
  rw [hr, Option.map_some, eq_comm, Option.map_eq_some_iff] at hmade
  obtain ⟨v, hv, hok⟩ := hmade
  obtain ⟨es, rfl⟩ : ∃ es, v = .map es := by
    cases v with
    | map es => exact ⟨es, rfl⟩
    | scalar | list => cases hok
  refine ⟨es, hok, fun key => ?_⟩
  obtain ⟨shelf, hshelf⟩ := hn.exists_shelved
  rw [Variables.environmentEntries]
  rw [hshelf.nested] at hv ⊢
  cases htree : shelf.tree? with
  | none =>
    rw [htree, Option.map_none, Option.none_or] at hv
    rw [Value.part_of_some hv]
    rfl
  | some w =>
    obtain rfl : w = .map shelf.entries := Dict.eq_of_tree?_eq_some htree
    rw [htree, Option.map_some, Option.some_or, Option.some.injEq] at hv
    have hlaid := get?_overlay (k := key) shelf ((fileEnvironments files vars path read).part n)
    rw [hv, ← Dict.get?_entries] at hlaid
    exact hlaid

/-- Which environments there are. -/
theorem isSome_environment?_iff (h : load files vars path read = .ok s)
    (hgroup : ∀ p ∈ vars, lowerName p.1 ≠ SettingsGroup.environments.variableName)
    (hn : vars.OnlyFields n) :
    (s.environment? n).isSome ↔ (∃ key text, vars.Sets n key text) ∨
      ((fileEnvironments files vars path read).entries.get? (.text n)).isSome := by
  have hmade := congrArg Option.isSome (environment?_of_load h hgroup n)
  rw [Option.isSome_map, Option.isSome_map, Option.isSome_or, Option.isSome_map] at hmade
  rw [← hn.isSome_nested_iff, hmade, Bool.or_eq_true]

/-- An environment that no variable names is what the file says. -/
theorem ofValue_of_environment (h : load files vars path read = .ok s)
    (hgroup : ∀ p ∈ vars, lowerName p.1 ≠ SettingsGroup.environments.variableName)
    (hn : vars.OnlyFields n) (hr : s.environment? n = some r)
    (hnone : ∀ key text, ¬ vars.Sets n key text) :
    EnvironmentRecord.ofValue ((fileEnvironments files vars path read).part n) = .ok r := by
  have hnested : (Variables.nested .environments vars.lowered).get? n = none := by
    rw [← Option.not_isSome_iff_eq_none, hn.isSome_nested_iff]
    rintro ⟨key, text, hsets⟩
    exact hnone key text hsets
  have hmade := environment?_of_load h hgroup n
  rw [hr, hnested, Option.map_none, Option.none_or, Option.map_some, eq_comm,
    Option.map_eq_some_iff] at hmade
  obtain ⟨v, hv, hok⟩ := hmade
  rw [Value.part_of_some hv, hok]

theorem get?_environmentEntries_eq_none (hn : vars.OnlyFields n)
    (hnone : ∀ text, ¬ vars.Sets n key text) :
    (vars.environmentEntries n).get? (.text key) = none := by
  rw [Option.eq_none_iff_forall_ne_some]
  intro w hw
  obtain ⟨text, hsets, -⟩ := hn.get?_environmentEntries.1 hw
  exact hnone text hsets

section Laid

variable {file u : Value} {top es : Entries Value} {p : String × String}

theorem Laid.get?_of_none (hlaid : Laid file top es) (h : top.get? (.text key) = none) :
    es.get? (.text key) = file.entries.get? (.text key) := by
  rw [hlaid, h, Option.map_none, Option.none_or]

/-- A field that is taken from a key that the upper mapping has. -/
theorem Laid.get?_of_some (hlaid : Laid file top es) (hok : EnvironmentRecord.ofEntries es = .ok r)
    (hp : p ∈ fieldNames) (htop : top.get? (.text key) = some u)
    (hgiven : given? es p.1 p.2 = es.get? (.text key)) :
    r.toEnvironment.get? p.1 = kept (some u) := by
  have hkey : es.get? (.text key) = some (overlay (file.part key) u) := by
    rw [hlaid, htop, Option.map_some, Option.some_or]
  -- the value of a field is no mapping, so nothing of the file is left in it
  have hmap : ∀ es', u ≠ .map es' := by
    rintro es' rfl
    obtain ⟨es'', hoverlay⟩ := exists_overlay_map (file.part key) es'
    exact given?_ne_map hok hp es'' (by rw [hgiven, hkey, hoverlay])
  rw [(holds_of_ofEntries hok).get?_field hp, hgiven, hkey, overlay_of_not_map _ hmap]

/-- A field that the upper mapping leaves alone. -/
theorem Laid.given?_eq (hlaid : Laid file top es) (h1 : top.get? (.text p.1) = none)
    (h2 : top.get? (.text p.2) = none) : given? es p.1 p.2 = given? file.entries p.1 p.2 := by
  simp only [given?, givenKey?, hlaid.get?_of_none h1, hlaid.get?_of_none h2]
  split_ifs <;> simp [hlaid.get?_of_none h1, hlaid.get?_of_none h2]

/-- A field that a variable sets, under one of its two names. -/
theorem Laid.get?_of_sets (hn : vars.OnlyFields n)
    (hlaid : Laid file (vars.environmentEntries n) es)
    (hok : EnvironmentRecord.ofEntries es = .ok r) (hp : p ∈ fieldNames)
    (hkey : key = p.1 ∨ key = p.2) (hsets : vars.Sets n key text) :
    ((key = p.1 ∨ file.entries.get? (.text p.1) = none) →
      r.toEnvironment.get? p.1 = kept (some (decodeNested .environments [n, key] text))) ∧
    (key ≠ p.1 → ∀ w, file.entries.get? (.text p.1) = some w →
      r.toEnvironment.get? p.1 = kept (some w)) := by
  have htop := hn.get?_environmentEntries.2 ⟨text, hsets, rfl⟩
  -- the other name of the field is set by no variable
  have hother : key ≠ p.1 → (vars.environmentEntries n).get? (.text p.1) = none := by
    intro hne
    apply get?_environmentEntries_eq_none hn
    intro text' hsets'
    exact hne (hn.once p hp key p.1 text text' hkey (.inl rfl) hsets hsets').1
  constructor
  · intro hfirst
    by_cases hname : key = p.1
    · subst hname
      apply hlaid.get?_of_some hok hp htop
      apply EnvironmentRecord.given?_eq
      rw [hlaid, htop, Option.map_some, Option.some_or]
      rfl
    · have hfile := hfirst.resolve_left hname
      have hfield := hkey.resolve_left hname
      apply hlaid.get?_of_some hok hp htop
      rw [hfield]
      exact given?_eq_field (by rw [hlaid.get?_of_none (hother hname), hfile])
  · intro hne w hw
    have hcss : es.get? (.text p.1) = some w := by rw [hlaid.get?_of_none (hother hne), hw]
    rw [(holds_of_ofEntries hok).get?_field hp, EnvironmentRecord.given?_eq (by rw [hcss]; rfl),
      hcss]

/-- A name that is no field's, which no variable sets. -/
theorem Laid.get?_extras (hn : vars.OnlyFields n)
    (hlaid : Laid file (vars.environmentEntries n) es)
    (hok : EnvironmentRecord.ofEntries es = .ok r) {name : String}
    (hname : ∀ p ∈ fieldNames, name ≠ p.1 ∧ name ≠ p.2) :
    r.extras.get? name = file.entries.get? (.text name) := by
  have hused : name ∉ usedKeys es := by
    intro hmem
    obtain ⟨p, hp, hkey⟩ := mem_usedKeys_iff.1 hmem
    rcases eq_or_eq_of_givenKey? hkey with heq | ⟨heq, -⟩
    · exact (hname p hp).1 heq
    · exact (hname p hp).2 heq
  have hnone : (vars.environmentEntries n).get? (.text name) = none := by
    apply get?_environmentEntries_eq_none hn
    rintro text ⟨_, -, hspells⟩
    obtain ⟨p, hp, heq | heq⟩ := hspells.field
    · exact (hname p hp).1 heq
    · exact (hname p hp).2 heq
  rw [(holds_of_ofEntries hok).get?_extras, if_neg hused, hlaid.get?_of_none hnone]

end Laid

/-- **Variables and files**, whatever reads the files: the fields of an environment, the values of
all other names, and which environments there are. -/
theorem environment_precedence (h : load files vars path read = .ok s)
    (hgroup : ∀ p ∈ vars, lowerName p.1 ≠ SettingsGroup.environments.variableName)
    (hn : vars.OnlyFields n) :
    let file := (fileEnvironments files vars path read).part n
    ((s.environment? n).isSome ↔ (∃ key text, vars.Sets n key text) ∨
      ((fileEnvironments files vars path read).entries.get? (.text n)).isSome) ∧
    ∀ r, s.environment? n = some r →
      (∀ p ∈ fieldNames, ∀ key text, (key = p.1 ∨ key = p.2) → vars.Sets n key text →
        ((key = p.1 ∨ file.entries.get? (.text p.1) = none) →
          r.toEnvironment.get? p.1 = kept (some (decodeNested .environments [n, key] text))) ∧
        (key ≠ p.1 → ∀ w, file.entries.get? (.text p.1) = some w →
          r.toEnvironment.get? p.1 = kept (some w))) ∧
      (∀ p ∈ fieldNames, (∀ text, ¬ vars.Sets n p.1 text ∧ ¬ vars.Sets n p.2 text) →
        r.toEnvironment.get? p.1 = kept (given? file.entries p.1 p.2)) ∧
      (∀ name, (∀ p ∈ fieldNames, name ≠ p.1 ∧ name ≠ p.2) →
        r.extras.get? name = file.entries.get? (.text name)) ∧
      ((∀ key text, ¬ vars.Sets n key text) → EnvironmentRecord.ofValue file = .ok r) := by
  intro file
  refine ⟨isSome_environment?_iff h hgroup hn, fun r hr => ?_⟩
  obtain ⟨es, hok, hlaid⟩ := exists_entries_of_environment h hgroup hn hr
  refine ⟨?_, ?_, ?_, ofValue_of_environment h hgroup hn hr⟩
  · intro p hp key text hkey hsets
    exact hlaid.get?_of_sets hn hok hp hkey hsets
  · intro p hp hnone
    rw [(holds_of_ofEntries hok).get?_field hp, hlaid.given?_eq
      (get?_environmentEntries_eq_none hn fun text => (hnone text).1)
      (get?_environmentEntries_eq_none hn fun text => (hnone text).2)]
  · intro name hname
    exact hlaid.get?_extras hn hok hname

/-- A file that gives two fields of an environment, each under its name in queries. -/
def deskFiles : Files :=
  [("mediamatch.yaml", "environments:\n  desktop:\n    width: 800\n    device-width: 800\n")]

/-- A variable for each of the fields; the second one takes the name with underscores. -/
def deskVariables : Variables :=
  [("MEDIAMATCH_ENVIRONMENTS__DESKTOP__WIDTH", "99"),
    ("MEDIAMATCH_ENVIRONMENTS__DESKTOP__DEVICE_WIDTH", "1024")]

theorem environment_desk :
    ((load deskFiles deskVariables none Yaml.read).toOption.bind fun s =>
      (s.environment? "desktop").map fun r =>
        r.toEnvironment.pairs.map fun e => (e.1, e.2.toText)) =
      some [("width", "99"), ("device-width", "800"), ("device_width", "1024")] := by
  decide +kernel

theorem spellsField_desk :
    SpellsField "MEDIAMATCH_ENVIRONMENTS__DESKTOP__WIDTH" "desktop" "width" ∧
      SpellsField "MEDIAMATCH_ENVIRONMENTS__DESKTOP__DEVICE_WIDTH" "desktop" "device_width" := by
  constructor
  · exact ⟨by decide +kernel, by unfold Nestable; decide +kernel, by decide +kernel⟩
  · exact ⟨by decide +kernel, by unfold Nestable; decide +kernel, by decide +kernel⟩

theorem onlyFields_desk : deskVariables.OnlyFields "desktop" := by
  obtain ⟨hwidth, hdevice⟩ := spellsField_desk
  have hsets : ∀ key text, deskVariables.Sets "desktop" key text →
      key = "width" ∧ text = "99" ∨ key = "device_width" ∧ text = "1024" := by
    rintro key text ⟨name, hname, hspells⟩
    rcases List.mem_cons.1 hname with heq | hname
    · cases heq
      exact .inl ⟨(hspells.unique hwidth).2, rfl⟩
    · cases List.mem_singleton.1 hname
      exact .inr ⟨(hspells.unique hdevice).2, rfl⟩
  have hfields : ∀ p ∈ fieldNames, ("width" = p.1 ∨ "width" = p.2) →
      ¬ ("device_width" = p.1 ∨ "device_width" = p.2) := by
    decide +kernel
  constructor
  · intro p hp rest _
    rcases List.mem_cons.1 hp with rfl | hp
    · exact ⟨_, hwidth⟩
    · rw [List.mem_singleton.1 hp]
      exact ⟨_, hdevice⟩
  · intro p hp key key' text text' hkey hkey' h h'
    rcases hsets key text h with ⟨rfl, rfl⟩ | ⟨rfl, rfl⟩ <;>
      rcases hsets key' text' h' with ⟨rfl, rfl⟩ | ⟨rfl, rfl⟩
    · exact ⟨rfl, rfl⟩
    · exact absurd hkey' (hfields p hp hkey)
    · exact absurd hkey (hfields p hp hkey')
    · exact ⟨rfl, rfl⟩

theorem environment_precedence_desk :
    ∃ s r, load deskFiles deskVariables none Yaml.read = .ok s ∧
      s.environment? "desktop" = some r ∧ r.toEnvironment.get? "width" = some (.ofString "99") := by
  have hgroup : ∀ p ∈ deskVariables, lowerName p.1 ≠ SettingsGroup.environments.variableName := by
    decide +kernel
  cases hload : load deskFiles deskVariables none Yaml.read with
  | error e =>
    have hdesk := environment_desk
    rw [hload] at hdesk
    cases hdesk
  | ok s =>
    have hwidth : deskVariables.Sets "desktop" "width" "99" :=
      ⟨_, List.mem_cons_self, spellsField_desk.1⟩
    obtain ⟨hsome, hfields⟩ := environment_precedence hload hgroup onlyFields_desk
    obtain ⟨r, hr⟩ := Option.isSome_iff_exists.1 (hsome.2 (.inl ⟨_, _, hwidth⟩))
    refine ⟨s, r, rfl, hr, ?_⟩
    have hp : ("width", "width") ∈ fieldNames := by decide +kernel
    rw [((hfields r hr).1 _ hp _ _ (.inl rfl) hwidth).1 (.inl rfl)]
    have hdecoded : decodeNested .environments ["desktop", "width"] "99" = .ofString "99" := by
      rw [decodeNested, if_pos (by decide +kernel)]
    rw [hdecoded]
    rfl

/-- **The file wins over a variable** that takes the other name of a field. -/
theorem file_over_variable :
    deskVariables.OnlyFields "desktop" ∧ deskVariables.Sets "desktop" "device_width" "1024" ∧
      ((load deskFiles deskVariables none Yaml.read).toOption.bind fun s =>
        (s.environment? "desktop").map fun r =>
          r.toEnvironment.pairs.map fun e => (e.1, e.2.toText)) =
        some [("width", "99"), ("device-width", "800"), ("device_width", "1024")] :=
  ⟨onlyFields_desk, ⟨_, List.mem_cons_of_mem _ List.mem_cons_self, spellsField_desk.2⟩,
    environment_desk⟩

end Settings

end MediaQuery
