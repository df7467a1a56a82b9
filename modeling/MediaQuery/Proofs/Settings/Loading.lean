import MediaQuery.Proofs.Environment.Record
import MediaQuery.Proofs.Settings.Overlay
import MediaQuery.Settings.Basic

/-!
# Loaded settings

Settings that were loaded are those of the groups of a file with the variables laid over them
(`exists_ofGroups`), and each part of them was checked: the root font size is above zero
(`positive_of_load`), and each environment is the record of a tree (`lookup_checked`).
-/

namespace MediaQuery

/-! ### Root font sizes -/

namespace UnitSettings

theorem positive_of_checkSize {v : Value} {x : Binary64} (h : checkSize v = .ok x) :
    Binary64.zero.lt x := by
  unfold checkSize at h
  split at h
  · cases h
  · rename_i y hy
    by_cases hsmall : Binary64.zero.lt y
    · by_cases hlarge : y.le greatestSize
      · simp [hsmall, hlarge] at h
        rwa [← h]
      · simp [hlarge, Checked.fail] at h
    · by_cases hlarge : y.le greatestSize <;> simp [hsmall, hlarge, Checked.fail] at h

theorem positive_default : Binary64.zero.lt default.rootFontSize := by
  decide +kernel

/-- The root font size of checked settings is above zero. -/
theorem positive_of_ofValue {v : Value} {units : UnitSettings} (h : ofValue v = .ok units) :
    Binary64.zero.lt units.rootFontSize := by
  cases v with
  | scalar | list => cases h
  | map entries =>
    have hentries : ofEntries entries = .ok units := h
    unfold ofEntries at hentries
    split at hentries
    · rw [← Except.ok.inj hentries]
      exact positive_default
    · obtain ⟨x, hx, rfl⟩ := Checked.map_eq_ok_iff.1 hentries
      exact positive_of_checkSize (Checked.under_eq_ok_iff.1 hx)

end UnitSettings

namespace Settings

variable {files : Files} {vars : Variables} {path : Option String} {read : Yaml.Reader}
  {s : Settings}

/-! ### Files -/

/-- The entries at the top of a file, with variables expanded; none if there is no file. -/
def fileEntries (files : Files) (vars : Variables) (path : Option String) (read : Yaml.Reader) :
    Entries Value :=
  match configTree files (path.getD defaultPath) read with
  | .ok config => (vars.expand config).entries
  | .error _ => []

theorem ofEntries_of_load (h : load files vars path read = .ok s) :
    ofEntries (fileEntries files vars path read) vars = .ok s := by
  unfold load at h
  unfold fileEntries
  split at h
  · rename_i config hconfig
    rw [hconfig]
    unfold ofValue at h
    split at h
    · rename_i entries hentries
      split_ifs at h
      simpa only [hentries, Value.entries] using h
    · cases h
  · rename_i hconfig
    rw [hconfig]
    exact h
  · cases h

/-! ### Groups -/

/-- Settings are made of their groups, with what the variables say laid over each. -/
theorem exists_ofGroups {entries : Entries Value} (h : ofEntries entries vars = .ok s) :
    ∃ units logging environments, vars.lowered.group? .environments = .ok environments ∧
      ofGroups units logging (merged (givenGroup? entries .environments) environments) = .ok s := by
  simp only [ofEntries, bind, Except.bind] at h
  cases hunits : vars.lowered.group? .units with
  | error g => simp [hunits] at h
  | ok units =>
    cases hlogging : vars.lowered.group? .logging with
    | error g => simp [hunits, hlogging] at h
    | ok logging =>
      cases henvironments : vars.lowered.group? .environments with
      | error g => simp [hunits, hlogging, henvironments] at h
      | ok environments =>
        simp only [hunits, hlogging, henvironments] at h
        exact ⟨_, _, _, rfl, h⟩

/-- What was checked of the groups. -/
theorem checked_of_ofGroups {units logging environments : Option Value}
    (h : ofGroups units logging environments = .ok s) :
    (units = none ∧ s.units = .default ∨
        ∃ v, units = some v ∧ UnitSettings.ofValue v = .ok s.units) ∧
      (environments = none ∧ s.environments = [] ∨
        ∃ v, environments = some v ∧ checkEnvironments v = .ok s.environments) := by
  unfold ofGroups at h
  cases hlog : checkLogging logging with
  | error e => rw [hlog] at h; cases h
  | ok logging =>
    rw [hlog] at h
    simp only [bind, Except.bind] at h
    split at h
    · rename_i hchecked
      cases h
      obtain ⟨hfirst, henvironments⟩ := Checked.both_eq_ok_iff.1 hchecked
      obtain ⟨hunits, -⟩ := Checked.both_eq_ok_iff.1 hfirst
      constructor
      · cases units with
        | none => exact .inl ⟨rfl, (Except.ok.inj hunits).symm⟩
        | some v => exact .inr ⟨v, rfl, Checked.under_eq_ok_iff.1 hunits⟩
      · cases environments with
        | none => exact .inl ⟨rfl, (Except.ok.inj henvironments).symm⟩
        | some v => exact .inr ⟨v, rfl, Checked.under_eq_ok_iff.1 henvironments⟩
    · cases h

/-- **The root font size of loaded settings is above zero.** -/
theorem positive_of_load (h : load files vars path read = .ok s) :
    Binary64.zero.lt s.units.rootFontSize := by
  obtain ⟨_, _, _, -, hgroups⟩ := exists_ofGroups (ofEntries_of_load h)
  obtain ⟨⟨-, hunits⟩ | ⟨v, -, hv⟩, -⟩ := checked_of_ofGroups hgroups
  · rw [hunits]
    exact UnitSettings.positive_default
  · exact UnitSettings.positive_of_ofValue hv

/-! ### Environments -/

theorem checkEnvironment_eq_ok_iff {key : Scalar} {v : Value} {q : String × EnvironmentRecord} :
    checkEnvironment key v = .ok q ↔ key = .text q.1 ∧ EnvironmentRecord.ofValue v = .ok q.2 := by
  unfold checkEnvironment
  rw [Checked.under_eq_ok_iff, Checked.both_eq_ok_iff]
  cases key <;> simp [Checked.fail, Checked.under, eq_comm]

/-- Environments are looked up where they are given. -/
theorem lookup_checked {v : Value} {checked : List (String × EnvironmentRecord)}
    (h : checkEnvironments v = .ok checked) (n : String) :
    (checked.lookup n).map Except.ok =
      (v.entries.get? (.text n)).map EnvironmentRecord.ofValue := by
  cases v with
  | scalar | list => cases h
  | map es =>
    have hall : Checked.all (es.map fun e => checkEnvironment e.1 e.2) = .ok checked := h
    rw [Checked.all_map_eq_ok_iff] at hall
    rw [Value.entries]
    clear h
    induction hall with
    | nil => rfl
    | @cons e q es checked hhead _ ih =>
      obtain ⟨key, v⟩ := e
      obtain ⟨m, r⟩ := q
      obtain ⟨rfl, hr⟩ := checkEnvironment_eq_ok_iff.1 hhead
      rw [lookup_cons_eq, Entries.get?_cons_eq]
      by_cases hn : n = m
      · subst hn
        rw [if_pos rfl, if_pos rfl, Option.map_some, Option.map_some, hr]
      · have hkey : Scalar.text n ≠ .text m := by simpa using hn
        rw [if_neg hn, if_neg hkey, ih]

end Settings

end MediaQuery
