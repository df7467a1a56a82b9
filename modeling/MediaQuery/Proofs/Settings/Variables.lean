import MediaQuery.Proofs.Environment.Record
import MediaQuery.Proofs.Settings.Overlay
import MediaQuery.Proofs.Text.Parts
import MediaQuery.Settings.Overlay
import Mathlib.Data.List.Induction

/-!
# Variables of environments

The name of a variable can spell a field of an environment: `MEDIAMATCH_ENVIRONMENTS__`, the name of
the environment, two underscores, and one of the two names of the field, in any letter case. Where
all variables of an environment are of this kind, they make one mapping for it, with the decoded
texts under the names that the variables spell.

* `SpellsField` are the names of such variables, `Variables.Sets` the variables with their texts;
* `path?_of_spellsField` is the way that such a name leads;
* `exists_shelved` is what a list of variables in lower case makes, by induction on the list;
* `OnlyFields.get?_environmentEntries` is what the variables of the process make.
-/

namespace MediaQuery

open Text EnvironmentRecord

/-! ### Names -/

/-- The name of a variable in lower case. -/
def lowerName (name : String) : String := String.ofList (lower name.toList)

/-- Names of environments that end where two underscores follow them, and not before. -/
def Nestable (n : String) : Prop := ¬ ['_', '_'] <:+: n.toList ++ ['_']

/-- The name of a variable spells a field of an environment, by either name of the field. -/
structure SpellsField (name n key : String) : Prop where
  lower_eq : lowerName name = "mediamatch_environments__" ++ n ++ "__" ++ key
  nestable : Nestable n
  field : ∃ p ∈ fieldNames, key = p.1 ∨ key = p.2

/-- Some variable sets a field of an environment to a text. -/
def Variables.Sets (vars : Variables) (n key text : String) : Prop :=
  ∃ name, (name, text) ∈ vars ∧ SpellsField name n key

theorem splitNesting_cons {c : Char} {cs : List Char} (h : ¬ ['_', '_'] <+: c :: cs) :
    splitNesting (c :: cs) =
      match splitNesting cs with
      | part :: parts => (c :: part) :: parts
      | [] => [[c]] := by
  have hfirst : ∀ rest, c = '_' → cs = '_' :: rest → False := by
    rintro rest rfl rfl
    exact h ⟨rest, rfl⟩
  exact splitNesting.eq_2 c cs hfirst

/-- What has no two underscores in a row before it ends is one part. -/
theorem splitNesting_append {a : List Char} (h : ¬ ['_', '_'] <:+: a ++ ['_']) (b : List Char) :
    splitNesting (a ++ '_' :: '_' :: b) = a :: splitNesting b := by
  induction a with
  | nil => rw [List.nil_append, splitNesting]
  | cons c a ih =>
    have htail : ¬ ['_', '_'] <:+: a ++ ['_'] := fun hrow =>
      h (hrow.trans (List.suffix_cons c _).isInfix)
    have hhead : ¬ ['_', '_'] <+: c :: (a ++ '_' :: '_' :: b) := by
      intro hstart
      have hfirst : ['_', '_'] <+: c :: (a ++ ['_']) := by
        cases a <;> simpa [List.cons_prefix_cons] using hstart
      exact h hfirst.isInfix
    rw [List.cons_append, splitNesting_cons hhead, ih htail]

theorem splitNesting_eq_self {a : List Char} (h : ¬ ['_', '_'] <:+: a) : splitNesting a = [a] := by
  induction a with
  | nil => rfl
  | cons c a ih =>
    have htail : ¬ ['_', '_'] <:+: a := fun hrow =>
      h (hrow.trans (List.suffix_cons c a).isInfix)
    rw [splitNesting_cons fun hstart => h hstart.isInfix, ih htail]

/-- The names of fields have no two underscores in a row. -/
theorem not_infix_field {key : String} (h : ∃ p ∈ fieldNames, key = p.1 ∨ key = p.2) :
    ¬ ['_', '_'] <:+: key.toList := by
  have hall : ∀ p ∈ fieldNames,
      ¬ ['_', '_'] <:+: p.1.toList ∧ ¬ ['_', '_'] <:+: p.2.toList := by
    decide +kernel
  obtain ⟨p, hp, rfl | rfl⟩ := h
  · exact (hall p hp).1
  · exact (hall p hp).2

/-- **The way that a name leads**: to the environment, and in it to the field. -/
theorem path?_of_spellsField {name n key : String} (h : SpellsField name n key) :
    Variables.path? .environments (lowerName name) = some [n, key] := by
  have hname : (lowerName name).toList =
      (SettingsGroup.environments.variableName ++ "__").toList ++
        (n.toList ++ '_' :: '_' :: key.toList) := by
    rw [h.lower_eq]
    simp [SettingsGroup.variableName, SettingsGroup.name, String.toList_append]
  rw [Variables.path?, afterStart?_eq_some_iff.2 hname, Option.map_some,
    splitNesting_append h.nestable, splitNesting_eq_self (not_infix_field h.field)]
  simp

/-- A name spells one field of one environment. -/
theorem SpellsField.unique {name n n' key key' : String} (h : SpellsField name n key)
    (h' : SpellsField name n' key') : n = n' ∧ key = key' := by
  have hpath : [n, key] = [n', key'] :=
    Option.some.inj ((path?_of_spellsField h).symm.trans (path?_of_spellsField h'))
  cases hpath
  exact ⟨rfl, rfl⟩

namespace Variables

variable {vars : Variables} {n key text : String}

/-! ### Variables in lower case -/

theorem lowered_append (vars : Variables) (name text : String) :
    lowered (vars ++ [(name, text)]) =
      if (vars.lowered.lookup (lowerName name)).isSome then
        vars.lowered.map fun p => if p.1 = lowerName name then (lowerName name, text) else p
      else vars.lowered ++ [(lowerName name, text)] := by
  rw [lowered, List.foldl_append]
  rfl

/-- What stands under a name in lower case is the text of a variable of that name. -/
theorem exists_of_mem_lowered {x : String} (h : (x, text) ∈ vars.lowered) :
    ∃ name, (name, text) ∈ vars ∧ lowerName name = x := by
  induction vars using List.reverseRecOn with
  | nil => cases h
  | append_singleton vars p ih =>
    obtain ⟨name, t⟩ := p
    have hold : (x, text) ∈ lowered vars →
        ∃ name', (name', text) ∈ vars ++ [(name, t)] ∧ lowerName name' = x := by
      intro hmem
      obtain ⟨name', hname, hx⟩ := ih hmem
      exact ⟨name', List.mem_append_left _ hname, hx⟩
    have hnew : (x, text) = (lowerName name, t) →
        ∃ name', (name', text) ∈ vars ++ [(name, t)] ∧ lowerName name' = x := by
      intro heq
      cases heq
      exact ⟨name, by simp, rfl⟩
    rw [lowered_append] at h
    split_ifs at h with hsome
    · obtain ⟨q, hq, heq⟩ := List.mem_map.1 h
      split_ifs at heq
      · exact hnew heq.symm
      · exact hold (heq ▸ hq)
    · rcases List.mem_append.1 h with h | h
      · exact hold h
      · exact hnew (List.mem_singleton.1 h)

/-- Each variable has its name in lower case. -/
theorem mem_namesOf_lowered {name : String} (h : (name, text) ∈ vars) :
    lowerName name ∈ namesOf vars.lowered := by
  induction vars using List.reverseRecOn with
  | nil => cases h
  | append_singleton vars p ih =>
    obtain ⟨name', t⟩ := p
    have hkeep : ∀ x ∈ namesOf (lowered vars), x ∈ namesOf (lowered (vars ++ [(name', t)])) := by
      intro x hx
      obtain ⟨q, hq, rfl⟩ := List.mem_map.1 hx
      rw [lowered_append]
      split_ifs
      · refine List.mem_map.2 ⟨_, List.mem_map_of_mem hq, ?_⟩
        split_ifs with heq
        · exact heq.symm
        · rfl
      · exact List.mem_map_of_mem (List.mem_append_left _ hq)
    have hlast : lowerName name' ∈ namesOf (lowered (vars ++ [(name', t)])) := by
      by_cases hsome : ((lowered vars).lookup (lowerName name')).isSome
      · apply hkeep
        by_contra hnot
        rw [lookup_eq_none_iff_notMem.2 hnot] at hsome
        cases hsome
      · rw [lowered_append, if_neg hsome]
        simp [namesOf]
    rcases List.mem_append.1 h with h | h
    · exact hkeep _ (ih h)
    · cases List.mem_singleton.1 h
      exact hlast

/-! ### Nested variables -/

theorem nested_append (vars : Variables) (name text : String) :
    nested .environments (vars ++ [(name, text)]) =
      match path? .environments name with
      | some (key :: path) =>
        (nested .environments vars).set key (placed ((nested .environments vars).get? key) path
          (decodeNested .environments (key :: path) text))
      | _ => nested .environments vars := by
  rw [nested, List.foldl_append]
  rfl

/-- What some variables in lower case make of an environment. -/
structure Shelved (vars : Variables) (n : String) (shelf : Dict Value) : Prop where
  nested : (nested .environments vars).get? n = shelf.tree?
  given : ∀ key w, shelf.get? key = some w → ∃ p ∈ vars,
    path? .environments p.1 = some [n, key] ∧ w = decodeNested .environments [n, key] p.2
  covers : ∀ p ∈ vars, ∀ key, path? .environments p.1 = some [n, key] → (shelf.get? key).isSome

namespace Shelved

variable {p : String × String} {shelf : Dict Value}

/-- A variable that leads elsewhere. -/
theorem skip (h : Shelved vars n shelf)
    (hp : ∀ rest, path? .environments p.1 ≠ some (n :: rest)) : Shelved (vars ++ [p]) n shelf where
  nested := by
    rw [nested_append]
    split
    · next m path hpath =>
      have hn : n ≠ m := fun heq => hp path (by rw [hpath, heq])
      rw [Dict.get?_set, if_neg hn, h.nested]
    · exact h.nested
  given key w hw := by
    obtain ⟨q, hq, hpath⟩ := h.given key w hw
    exact ⟨q, List.mem_append_left _ hq, hpath⟩
  covers q hq key hpath := by
    rcases List.mem_append.1 hq with hq | hq
    · exact h.covers q hq key hpath
    · rw [List.mem_singleton.1 hq] at hpath
      exact absurd hpath (hp [key])

/-- A variable that leads to a key of the environment. -/
theorem write (h : Shelved vars n shelf) (hp : path? .environments p.1 = some [n, key]) :
    Shelved (vars ++ [p]) n (shelf.set key (decodeNested .environments [n, key] p.2)) where
  nested := by
    rw [nested_append, hp]
    simp only [Dict.get?_set, if_true, h.nested, placed_tree?]
  given key' w hw := by
    rw [Dict.get?_set] at hw
    split_ifs at hw with hkey
    · subst hkey
      exact ⟨p, by simp, hp, (Option.some.inj hw).symm⟩
    · obtain ⟨q, hq, hpath⟩ := h.given key' w hw
      exact ⟨q, List.mem_append_left _ hq, hpath⟩
  covers q hq key' hpath := by
    rw [Dict.get?_set]
    split_ifs with hkey
    · rfl
    · rcases List.mem_append.1 hq with hq | hq
      · exact h.covers q hq key' hpath
      · rw [List.mem_singleton.1 hq, hp] at hpath
        cases hpath
        exact absurd rfl hkey

end Shelved

/-- **What variables make of an environment** if their ways all end at a key in it. -/
theorem exists_shelved
    (h : ∀ p ∈ vars, ∀ rest, path? .environments p.1 = some (n :: rest) → ∃ key, rest = [key]) :
    ∃ shelf, Shelved vars n shelf := by
  induction vars using List.reverseRecOn with
  | nil => exact ⟨.empty, rfl, nofun, nofun⟩
  | append_singleton vars p ih =>
    obtain ⟨shelf, hshelf⟩ := ih fun q hq => h q (List.mem_append_left _ hq)
    by_cases hleads : ∃ rest, path? .environments p.1 = some (n :: rest)
    · obtain ⟨rest, hrest⟩ := hleads
      obtain ⟨key, rfl⟩ := h p (by simp) rest hrest
      exact ⟨_, hshelf.write hrest⟩
    · exact ⟨shelf, hshelf.skip fun rest hrest => hleads ⟨rest, hrest⟩⟩

/-! ### Variables of the process -/

/-- All variables of an environment spell fields of it, and none is spelled twice. -/
structure OnlyFields (vars : Variables) (n : String) : Prop where
  spells : ∀ p ∈ vars, ∀ rest, path? .environments (lowerName p.1) = some (n :: rest) →
    ∃ key, SpellsField p.1 n key
  once : ∀ p ∈ fieldNames, ∀ key key' text text', (key = p.1 ∨ key = p.2) →
    (key' = p.1 ∨ key' = p.2) → vars.Sets n key text → vars.Sets n key' text' →
    key = key' ∧ text = text'

/-- What the variables say about an environment. -/
def environmentEntries (vars : Variables) (n : String) : Entries Value :=
  (((nested .environments vars.lowered).get? n).getD .null).entries

namespace OnlyFields

theorem exists_shelved (h : vars.OnlyFields n) : ∃ shelf, Shelved vars.lowered n shelf := by
  apply Variables.exists_shelved
  intro p hp rest hpath
  obtain ⟨name, hname, hlower⟩ := exists_of_mem_lowered hp
  rw [← hlower] at hpath
  obtain ⟨key, hkey⟩ := h.spells _ hname rest hpath
  rw [path?_of_spellsField hkey] at hpath
  exact ⟨key, (List.cons.inj (Option.some.inj hpath)).2.symm⟩

/-- **What the variables say about a field of an environment.** -/
theorem get?_shelf (h : vars.OnlyFields n) {shelf : Dict Value}
    (hshelf : Shelved vars.lowered n shelf) {w : Value} :
    shelf.get? key = some w ↔
      ∃ text, vars.Sets n key text ∧ w = decodeNested .environments [n, key] text := by
  have hread : ∀ w, shelf.get? key = some w →
      ∃ text, vars.Sets n key text ∧ w = decodeNested .environments [n, key] text := by
    intro w hw
    obtain ⟨⟨x, text⟩, hp, hpath, rfl⟩ := hshelf.given key w hw
    obtain ⟨name, hname, rfl⟩ := exists_of_mem_lowered hp
    obtain ⟨key', hkey⟩ := h.spells _ hname _ hpath
    have hsame : [n, key'] = [n, key] :=
      Option.some.inj ((path?_of_spellsField hkey).symm.trans hpath)
    cases hsame
    exact ⟨text, ⟨name, hname, hkey⟩, rfl⟩
  refine ⟨hread w, ?_⟩
  rintro ⟨text, hsets, rfl⟩
  obtain ⟨name, hname, hkey⟩ := hsets
  obtain ⟨p, hp, hfst⟩ := List.mem_map.1 (mem_namesOf_lowered hname)
  have hcovered := hshelf.covers p hp key (by rw [hfst]; exact path?_of_spellsField hkey)
  obtain ⟨w, hw⟩ := Option.isSome_iff_exists.1 hcovered
  -- the text found is the one that was set, since no field is set twice
  obtain ⟨text', hsets', rfl⟩ := hread w hw
  obtain ⟨q, hq, hfield⟩ := hkey.field
  obtain ⟨-, rfl⟩ := h.once q hq key key text text' hfield hfield ⟨name, hname, hkey⟩ hsets'
  exact hw

theorem get?_environmentEntries (h : vars.OnlyFields n) {w : Value} :
    (vars.environmentEntries n).get? (.text key) = some w ↔
      ∃ text, vars.Sets n key text ∧ w = decodeNested .environments [n, key] text := by
  obtain ⟨shelf, hshelf⟩ := h.exists_shelved
  rw [environmentEntries, hshelf.nested, Dict.entries_tree?, Dict.get?_entries,
    h.get?_shelf hshelf]

/-- The variables make a mapping of an environment if they set one of its fields. -/
theorem isSome_nested_iff (h : vars.OnlyFields n) :
    ((nested .environments vars.lowered).get? n).isSome ↔ ∃ key text, vars.Sets n key text := by
  obtain ⟨shelf, hshelf⟩ := h.exists_shelved
  rw [hshelf.nested, Dict.isSome_tree?_iff]
  simp only [h.get?_shelf hshelf]
  exact exists_congr fun key => ⟨fun ⟨_, text, hsets, _⟩ => ⟨text, hsets⟩,
    fun ⟨text, hsets⟩ => ⟨_, text, hsets, rfl⟩⟩

end OnlyFields

theorem restoreFields_environments (d : Dict Value) :
    restoreFields .environments d.entries = d.entries := by
  rw [restoreFields, List.map_id'' _ d.entries, Dict.ofList_entries]
  rintro ⟨key, v⟩
  cases key <;> rfl

/-- What the variables say about environments, if none of them holds the whole group. -/
theorem group?_environments
    (h : ∀ p ∈ vars, lowerName p.1 ≠ SettingsGroup.environments.variableName) :
    group? .environments vars.lowered = .ok (nested .environments vars.lowered).tree? := by
  have hnone : vars.lowered.lookup SettingsGroup.environments.variableName = none := by
    rw [lookup_eq_none_iff_notMem]
    intro hmem
    obtain ⟨⟨x, text⟩, hp, rfl⟩ := List.mem_map.1 hmem
    obtain ⟨name, hname, hlower⟩ := exists_of_mem_lowered hp
    exact h _ hname hlower
  rw [group?, hnone]
  simp only [Dict.tree?]
  split_ifs
  · rfl
  · simp only [Option.map_some, restoreFields_environments]

end Variables

end MediaQuery
