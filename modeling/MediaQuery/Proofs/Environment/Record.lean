import MediaQuery.Environment.Record
import MediaQuery.Proofs.Environment.Lookup
import Mathlib.Data.List.Forall2

/-!
# What a record holds

A record that was made of the entries of a mapping holds, for each of its fields, what is given for
the field, and beside them all entries that no field was taken from (`Holds`). So the environment of
a record is known by what is given: `get?_field` for the names of fields, `get?_extras` and
`get?_extra` for all others. `exists_ofEntries_iff` says which mappings make a record.

* `fieldNames` are the fields with their two names;
* `kept` is what a field keeps of a value.
-/

namespace MediaQuery

/-! ### Checked results -/

namespace Checked

variable {α β : Type}

theorem under_eq_ok_iff {step : Place} {c : Checked α} {x : α} :
    c.under step = .ok x ↔ c = .ok x := by
  cases c <;> simp [under]

theorem both_eq_ok_iff {a : Checked α} {b : Checked β} {p : α × β} :
    both a b = .ok p ↔ a = .ok p.1 ∧ b = .ok p.2 := by
  obtain ⟨x, y⟩ := p
  cases a <;> cases b <;> simp [both]

theorem map_eq_ok_iff {f : α → β} {c : Checked α} {y : β} :
    Except.map f c = .ok y ↔ ∃ x, c = .ok x ∧ f x = y := by
  cases c <;> simp [Except.map]

theorem all_map_eq_ok_iff {f : α → Checked β} {as : List α} {xs : List β} :
    all (as.map f) = .ok xs ↔ List.Forall₂ (fun a x => f a = .ok x) as xs := by
  induction as generalizing xs with
  | nil => cases xs <;> simp [all]
  | cons a as ih =>
    rw [List.map_cons, all, map_eq_ok_iff]
    constructor
    · rintro ⟨⟨x, xs'⟩, hboth, rfl⟩
      obtain ⟨hx, hxs⟩ := both_eq_ok_iff.1 hboth
      exact .cons hx (ih.1 hxs)
    · rintro (_ | ⟨hx, hxs⟩)
      exact ⟨(_, _), both_eq_ok_iff.2 ⟨hx, ih.2 hxs⟩, rfl⟩

theorem exists_all_map_iff {f : α → Checked β} {as : List α} :
    (∃ xs, all (as.map f) = .ok xs) ↔ ∀ a ∈ as, ∃ x, f a = .ok x := by
  simp only [all_map_eq_ok_iff]
  induction as with
  | nil => simp
  | cons a as ih =>
    rw [List.forall_mem_cons, ← ih]
    constructor
    · rintro ⟨_, _ | ⟨hx, hxs⟩⟩
      exact ⟨⟨_, hx⟩, _, hxs⟩
    · rintro ⟨⟨x, hx⟩, xs, hxs⟩
      exact ⟨x :: xs, .cons hx hxs⟩

end Checked

namespace EnvironmentRecord

variable {entries : Entries Value} {r : EnvironmentRecord} {p : String × String} {name : String}

/-! ### Fields -/

/-- The fields of a record, each by its name in queries and its name as a field. -/
def fieldNames : List (String × String) :=
  (typeName, typeField) :: fieldOrder.map fun f => (f.name, f.fieldName)

theorem nodup_fieldNames : (namesOf fieldNames).Nodup := by decide +kernel

theorem mem_fieldOrder (f : Feature) : f ∈ fieldOrder := by
  cases f <;> decide

theorem name_mem_fieldNames (f : Feature) : (f.name, f.fieldName) ∈ fieldNames :=
  List.mem_cons_of_mem _ (List.mem_map_of_mem (mem_fieldOrder f))

/-- What a field keeps of a value: nothing of null, and a truth value as an integer. -/
def kept : Option Value → Option Value
  | none | some .null => none
  | some (.bool b) => some (.int b.toNat)
  | some v => some v

theorem checkType_eq_ok {v : Option Value} {mediaType : Option String}
    (h : checkType v = .ok mediaType) : mediaType.map Value.ofString = kept v := by
  unfold checkType at h
  split at h <;> cases h <;> rfl

theorem checkFeature_eq_ok {v kept' : Option Value} (h : checkFeature v = .ok kept') :
    kept' = kept v := by
  unfold checkFeature at h
  split at h <;> cases h <;> rfl

theorem given?_eq (h : (entries.get? (.text p.1)).isSome) :
    given? entries p.1 p.2 = entries.get? (.text p.1) := by
  rw [given?, givenKey?, if_pos h, Option.bind_some]

theorem given?_eq_field (h : entries.get? (.text p.1) = none) :
    given? entries p.1 p.2 = entries.get? (.text p.2) := by
  rw [given?, givenKey?, h]
  cases hfield : entries.get? (.text p.2) <;> simp [hfield]

/-! ### Records of mappings -/

/-- The entries that no field is taken from. -/
def isOther (entries : Entries Value) (key : Scalar) : Bool :=
  match key with
  | .text s => !(usedKeys entries).contains s
  | _ => true

/-- What a record holds that was made of some entries. -/
structure Holds (entries : Entries Value) (r : EnvironmentRecord) : Prop where
  mediaType : r.mediaType.map Value.ofString = kept (given? entries typeName typeField)
  features : r.features =
    fieldOrder.filterMap fun f => (kept (given? entries f.name f.fieldName)).map fun v => (f, v)
  extras : r.extras.entries = firsts (entries.filter fun e => isOther entries e.1)

theorem checkExtra_eq_ok {key : Scalar} {v : Value} {q : String × Value}
    (h : checkExtra key v = .ok q) : (key, v) = (.text q.1, q.2) := by
  unfold checkExtra at h
  split at h <;> cases h
  rfl

theorem ofEntries_eq_ok_iff :
    ofEntries entries = .ok r ↔ ∃ values others,
      checkType (given? entries typeName typeField) = .ok r.mediaType ∧
      List.Forall₂ (fun f q => ∃ v, checkFeature (given? entries f.name f.fieldName) = .ok v ∧
        (f, v) = q) fieldOrder values ∧
      List.Forall₂ (fun e q => checkExtra e.1 e.2 = .ok q)
        (entries.filter fun e => isOther entries e.1) others ∧
      r.features = (values.filterMap fun q => q.2.map fun v => (q.1, v)) ∧
      r.extras = .ofPairs others := by
  obtain ⟨mediaType, features, extras⟩ := r
  simp only [ofEntries, Checked.map_eq_ok_iff, Checked.both_eq_ok_iff, Checked.under_eq_ok_iff,
    Checked.all_map_eq_ok_iff, EnvironmentRecord.mk.injEq, Prod.exists, and_assoc]
  constructor
  · rintro ⟨_, values, others, htype, hfeatures, hothers, rfl, rfl, rfl⟩
    exact ⟨values, others, htype, hfeatures, hothers, rfl, rfl⟩
  · rintro ⟨values, others, htype, hfeatures, hothers, rfl, rfl⟩
    exact ⟨_, values, others, htype, hfeatures, hothers, rfl, rfl, rfl⟩

/-- **A record holds what is given.** -/
theorem holds_of_ofEntries (h : ofEntries entries = .ok r) : Holds entries r := by
  obtain ⟨values, others, htype, hfeatures, hothers, hr, hextras⟩ := ofEntries_eq_ok_iff.1 h
  refine ⟨checkType_eq_ok htype, ?_, ?_⟩
  · have hvalues : List.Forall₂ (fun f q => (f, kept (given? entries f.name f.fieldName)) = q)
        fieldOrder values := by
      refine hfeatures.imp fun f q hq => ?_
      obtain ⟨v, hv, rfl⟩ := hq
      rw [checkFeature_eq_ok hv]
    have hmap :
        fieldOrder.map (fun f => (f, kept (given? entries f.name f.fieldName))) = values := by
      rwa [← List.forall₂_eq_eq_eq, List.forall₂_map_left_iff]
    rw [hr, ← hmap, List.filterMap_map]
    rfl
  · have hall : List.Forall₂ (fun e q => e = (Scalar.text q.1, q.2))
        (entries.filter fun e => isOther entries e.1) others :=
      hothers.imp fun e q hq => checkExtra_eq_ok hq
    have hnames : (entries.filter fun e => isOther entries e.1) = Entries.ofNames others := by
      rw [Entries.ofNames, ← List.forall₂_eq_eq_eq, List.forall₂_map_right_iff]
      exact hall
    rw [hextras, Dict.entries_ofPairs, hnames]

/-- **Which entries make a record**: those whose fields pass their checks and whose keys are
texts. -/
theorem exists_ofEntries_iff :
    (∃ r, ofEntries entries = .ok r) ↔
      (∃ t, checkType (given? entries typeName typeField) = .ok t) ∧
      (∀ f : Feature, ∃ v, checkFeature (given? entries f.name f.fieldName) = .ok v) ∧
      ∀ e ∈ entries, isOther entries e.1 → ∃ q, checkExtra e.1 e.2 = .ok q := by
  have hfeatures :
      (∀ f : Feature, ∃ v, checkFeature (given? entries f.name f.fieldName) = .ok v) ↔
        ∃ values, List.Forall₂ (fun f q => ∃ v,
          checkFeature (given? entries f.name f.fieldName) = .ok v ∧ (f, v) = q)
          fieldOrder values := by
    simp only [← Checked.map_eq_ok_iff, ← Checked.all_map_eq_ok_iff, Checked.exists_all_map_iff]
    simp [Checked.map_eq_ok_iff, mem_fieldOrder]
  have hextras : (∀ e ∈ entries, isOther entries e.1 → ∃ q, checkExtra e.1 e.2 = .ok q) ↔
      ∃ others, List.Forall₂ (fun e q => checkExtra e.1 e.2 = .ok q)
        (entries.filter fun e => isOther entries e.1) others := by
    simp only [← Checked.all_map_eq_ok_iff, Checked.exists_all_map_iff]
    simp [List.mem_filter]
  rw [hfeatures, hextras]
  simp only [ofEntries_eq_ok_iff]
  constructor
  · rintro ⟨r, values, others, htype, hfeatures, hothers, -⟩
    exact ⟨⟨_, htype⟩, ⟨values, hfeatures⟩, others, hothers⟩
  · rintro ⟨⟨t, htype⟩, ⟨values, hfeatures⟩, others, hothers⟩
    exact ⟨⟨t, _, .ofPairs others⟩, values, others, htype, hfeatures, hothers, rfl, rfl⟩

/-- No field of a record is given as a mapping. -/
theorem given?_ne_map (h : ofEntries entries = .ok r) (hp : p ∈ fieldNames)
    (es : List (Scalar × Value)) : given? entries p.1 p.2 ≠ some (.map es) := by
  obtain ⟨⟨t, htype⟩, hfeatures, -⟩ := exists_ofEntries_iff.1 ⟨r, h⟩
  intro hgiven
  rcases List.mem_cons.1 hp with rfl | hfeature
  · rw [hgiven] at htype
    cases htype
  · obtain ⟨f, -, rfl⟩ := List.mem_map.1 hfeature
    obtain ⟨v, hv⟩ := hfeatures f
    rw [hgiven] at hv
    cases hv

/-- The fields that are set, each under its name in queries. -/
def fieldPairs (entries : Entries Value) : List (String × Value) :=
  fieldNames.filterMap fun p => (kept (given? entries p.1 p.2)).map fun v => (p.1, v)

/-! ### Looking up names of records -/

theorem mem_usedKeys_iff :
    name ∈ usedKeys entries ↔ ∃ p ∈ fieldNames, givenKey? entries p.1 p.2 = some name :=
  List.mem_filterMap

/-- A key that a field is taken from is one of the two names of the field. -/
theorem eq_or_eq_of_givenKey? (h : givenKey? entries p.1 p.2 = some name) :
    name = p.1 ∨ name = p.2 ∧ (entries.get? (.text p.2)).isSome := by
  unfold givenKey? at h
  split_ifs at h with hname hfield
  · cases h
    exact .inl rfl
  · cases h
    exact .inr ⟨rfl, hfield⟩

namespace Holds

theorem get?_extras (h : Holds entries r) :
    r.extras.get? name = if name ∈ usedKeys entries then none else entries.get? (.text name) := by
  rw [← Dict.get?_entries, h.extras, Entries.get?_firsts, Entries.get?_filter]
  by_cases hused : name ∈ usedKeys entries <;> simp [isOther, hused]

/-- The name of a field is never the name of an extra value. -/
theorem get?_filter_extras (h : Holds entries r) (hp : p ∈ fieldNames) :
    (r.extras.filter fun e => !isNull e.2).get? p.1 = none := by
  rw [Dict.get?_filter r.extras fun v => !isNull v, h.get?_extras]
  cases hgiven : entries.get? (.text p.1) with
  | none => simp
  | some v =>
    have hkey : givenKey? entries p.1 p.2 = some p.1 := by
      rw [givenKey?, hgiven]
      rfl
    rw [if_pos (mem_usedKeys_iff.2 ⟨p, hp, hkey⟩), Option.filter_none]

theorem toEnvironment_eq (h : Holds entries r) :
    r.toEnvironment =
      .ofPairs (fieldPairs entries ++ (r.extras.filter fun e => !isNull e.2).pairs) := by
  have hfields : (r.mediaType.map fun s => (typeName, Value.ofString s)).toList ++
      r.features.map (fun q => (q.1.name, q.2)) = fieldPairs entries := by
    rw [fieldPairs, fieldNames, List.filterMap_cons, ← h.mediaType, h.features,
      List.filterMap_map, List.map_filterMap]
    cases r.mediaType <;> simp [Function.comp_def]
  rw [← hfields]
  rfl

/-- Fields and extra values have no names in common, so all of them are there. -/
theorem pairs_toEnvironment (h : Holds entries r) :
    r.toEnvironment.pairs =
      fieldPairs entries ++ (r.extras.filter fun e => !isNull e.2).pairs := by
  rw [h.toEnvironment_eq, Dict.ofPairs]
  apply firsts_eq_self
  rw [namesOf, List.map_append, List.nodup_append']
  refine ⟨nodup_filterMap nodup_fieldNames _, Dict.distinct _, fun name hfield hextra => ?_⟩
  obtain ⟨p, hp, rfl⟩ := List.mem_map.1 (mem_namesOf_filterMap hfield)
  exact lookup_eq_none_iff_notMem.1 (h.get?_filter_extras hp) hextra

/-- **A field is looked up** by its name in queries. -/
theorem get?_field (h : Holds entries r) (hp : p ∈ fieldNames) :
    r.toEnvironment.get? p.1 = kept (given? entries p.1 p.2) := by
  rw [h.toEnvironment_eq, Dict.get?_ofPairs, List.lookup_append, ← Dict.get?,
    h.get?_filter_extras hp, Option.or_none, fieldPairs,
    lookup_filterMap nodup_fieldNames (fun p => kept (given? entries p.1 p.2)) hp]

/-- All other names are looked up among the extra values. -/
theorem get?_extra (h : Holds entries r) (hname : name ∉ namesOf fieldNames) :
    r.toEnvironment.get? name = (r.extras.get? name).filter fun v => !isNull v := by
  have hfields : name ∉ namesOf (fieldPairs entries) := fun hmem =>
    hname (mem_namesOf_filterMap hmem)
  rw [h.toEnvironment_eq, Dict.get?_ofPairs, List.lookup_append,
    lookup_eq_none_iff_notMem.2 hfields, Option.none_or]
  exact r.extras.get?_filter fun v => !isNull v

end Holds

end EnvironmentRecord

end MediaQuery
