import MediaQuery.Proofs.Environment.Record
import MediaQuery.Proofs.Matching.Mentioned
import MediaQuery.Proofs.Session.History

/-!
# Matching against records

An environment can be given as a mapping or as a record that was made of the mapping. The record
takes the mapping apart into fields and extra values, checks them and drops what is null; but every
name is looked up as in the mapping, apart from null (`get?_toEnvironment`), and a match does not
tell null from nothing. So both ways give the same answers: `record_matches`.
-/

namespace MediaQuery

variable {m : Dict Value} {r : EnvironmentRecord} {root : Binary64}

/-- Values that a record takes as they are: null, integers, numbers and texts. -/
inductive Recordable : Value → Prop
  | null : Recordable .null
  | int (i : Int) : Recordable (.int i)
  | float (x : Binary64) : Recordable (.float x)
  | text (s : String) : Recordable (.ofString s)

/-- A name under which a record looks for a field, but queries do not. -/
def IsFieldOnly (name : String) : Prop := ∃ p ∈ EnvironmentRecord.fieldNames, name = p.2 ∧ p.2 ≠ p.1

/-- Mappings that records are made of, with fields under their names in queries and a text for the
media type, if any. -/
structure Describes (m : Dict Value) : Prop where
  values : ∀ e ∈ m.pairs, Recordable e.2
  names : ∀ e ∈ m.pairs, ¬ IsFieldOnly e.1
  type : ∀ v, m.get? "type" = some v → v = .null ∨ ∃ s, v = .ofString s

/-! ### Records of mappings -/

namespace EnvironmentRecord

theorem kept_of_recordable {v : Value} (h : Recordable v) :
    kept (some v) = (some v).filter fun v => !isNull v := by
  cases h <;> rfl

theorem checkFeature_of_recordable {v : Value} (h : Recordable v) :
    ∃ kept, checkFeature (some v) = .ok kept := by
  cases h <;> exact ⟨_, rfl⟩

end EnvironmentRecord

namespace Describes

open EnvironmentRecord

theorem recordable (h : Describes m) {name : String} {v : Value} (hv : m.get? name = some v) :
    Recordable v :=
  h.values (name, v) (Dict.get?_eq_some_iff.1 hv)

/-- A field of such a mapping is given under its name in queries or not at all. -/
theorem given?_eq_get? (h : Describes m) {p : String × String} (hp : p ∈ fieldNames) :
    given? m.entries p.1 p.2 = m.get? p.1 := by
  have hget : ∀ name, m.entries.get? (.text name) = m.get? name := fun name => Dict.get?_entries m
  cases hname : m.get? p.1 with
  | some v =>
    rw [given?_eq (by rw [hget, hname]; rfl), hget, hname]
  | none =>
    rw [given?_eq_field (by rw [hget, hname]), hget, Dict.get?, lookup_eq_none_iff_notMem]
    intro hfield
    obtain ⟨e, he, hfst⟩ := List.mem_map.1 hfield
    by_cases hsame : p.2 = p.1
    · rw [hsame] at hfield
      exact lookup_eq_none_iff_notMem.1 hname hfield
    · exact h.names e he ⟨p, hp, hfst, hsame⟩

theorem used_mem_fieldNames (h : Describes m) {name : String}
    (hused : name ∈ usedKeys m.entries) : name ∈ namesOf fieldNames := by
  obtain ⟨p, hp, hkey⟩ := mem_usedKeys_iff.1 hused
  have hmem : p.1 ∈ namesOf fieldNames := List.mem_map_of_mem hp
  rcases eq_or_eq_of_givenKey? hkey with rfl | ⟨rfl, hgiven⟩
  · exact hmem
  · rw [Dict.get?_entries, Option.isSome_iff_exists] at hgiven
    obtain ⟨v, hv⟩ := hgiven
    by_cases hsame : p.2 = p.1
    · rwa [hsame]
    · exact absurd ⟨p, hp, rfl, hsame⟩ (h.names _ (Dict.get?_eq_some_iff.1 hv))

/-- **Such a mapping makes a record.** -/
theorem exists_ofEntries (h : Describes m) : ∃ r, ofEntries m.entries = .ok r := by
  refine exists_ofEntries_iff.2 ⟨?_, fun f => ?_, fun e he _ => ?_⟩
  · have htype : (typeName, typeField) ∈ fieldNames := List.mem_cons_self
    rw [h.given?_eq_get? htype]
    cases hv : m.get? typeName with
    | none => exact ⟨none, rfl⟩
    | some v =>
      rcases h.type v hv with rfl | ⟨s, rfl⟩
      · exact ⟨none, rfl⟩
      · exact ⟨some s, rfl⟩
  · rw [h.given?_eq_get? (name_mem_fieldNames f)]
    cases hv : m.get? f.name with
    | none => exact ⟨none, rfl⟩
    | some v => exact checkFeature_of_recordable (h.recordable hv)
  · obtain ⟨q, -, rfl⟩ := List.mem_map.1 he
    exact ⟨q, rfl⟩

/-- **Names are looked up as in the mapping**, apart from null. -/
theorem get?_toEnvironment (h : Describes m) (hr : Holds m.entries r) (name : String) :
    r.toEnvironment.get? name = (m.get? name).filter fun v => !isNull v := by
  by_cases hname : name ∈ namesOf fieldNames
  · obtain ⟨p, hp, rfl⟩ := List.mem_map.1 hname
    rw [hr.get?_field hp, h.given?_eq_get? hp]
    cases hv : m.get? p.1 with
    | none => rfl
    | some v => exact kept_of_recordable (h.recordable hv)
  · have hused : name ∉ usedKeys m.entries := fun hused => hname (h.used_mem_fieldNames hused)
    rw [hr.get?_extra hname, hr.get?_extras, if_neg hused, Dict.get?_entries]

end Describes

/-! ### Matches -/

theorem EnvironmentRecord.isNull_iff {v : Value} : isNull v ↔ v = .null := by
  unfold isNull
  split <;> simp_all

theorem sameValue_filter_isNull (a : Option Value) :
    SameValue (a.filter fun v => !EnvironmentRecord.isNull v) a := by
  cases a with
  | none => exact .refl none
  | some v =>
    by_cases hv : EnvironmentRecord.isNull v
    · obtain rfl := EnvironmentRecord.isNull_iff.1 hv
      exact .inr ⟨rfl, rfl⟩
    · exact .inl (by simp [hv])

/-- The media type of a query is compared with a text, so null is no type. -/
theorem Query.typeMatches_filter_isNull {env env' : Environment} (q : Query)
    (h : env.get? "type" = (env'.get? "type").filter fun v => !EnvironmentRecord.isNull v) :
    q.typeMatches env = q.typeMatches env' := by
  rw [typeMatches, typeMatches, h]
  cases env'.get? "type" with
  | none => rfl
  | some v =>
    by_cases hv : EnvironmentRecord.isNull v
    · obtain rfl := EnvironmentRecord.isNull_iff.1 hv
      rfl
    · rw [Option.filter_some_pos (by simpa using hv)]

/-- Environments that all trees match alike are alike to every session. -/
theorem Session.State.observe_matchOnce_congr {env env' : Environment}
    (h : ∀ (root : Binary64) (qs : QueryList), qs.matches root env = qs.matches root env')
    (s : State) (subject : Subject) :
    s.observe (.matchOnce subject env) = s.observe (.matchOnce subject env') := by
  rw [observe, observe, step, step]
  cases s.openSubject subject with
  | error e => rfl
  | ok result =>
    simp only [see_matchTree, plainMatchTree, h]

/--
**Mappings and records give the same answers.** A mapping of null, integers, numbers and texts in
which fields stand under their names in queries makes a record, and every query list, parsed or
not, matches the record as it matches the mapping.
-/
theorem record_matches (h : Describes m) :
    ∃ r, EnvironmentRecord.ofValue (.map m.entries) = .ok r ∧
      (∀ (root : Binary64) (qs : QueryList),
        qs.matches root r.toEnvironment = qs.matches root (.ofEntries m.entries)) ∧
      ∀ (s : Session.State) (subject : Session.Subject),
        s.observe (.matchOnce subject r.toEnvironment) =
          s.observe (.matchOnce subject (.ofEntries m.entries)) := by
  obtain ⟨r, hr⟩ := h.exists_ofEntries
  have hget : ∀ name, r.toEnvironment.get? name =
      ((Environment.ofEntries m.entries).get? name).filter
        fun v => !EnvironmentRecord.isNull v := by
    intro name
    rw [h.get?_toEnvironment (EnvironmentRecord.holds_of_ofEntries hr), Dict.ofEntries_entries]
  have hmatches : ∀ (root : Binary64) (qs : QueryList),
      qs.matches root r.toEnvironment = qs.matches root (.ofEntries m.entries) := by
    intro root qs
    apply QueryList.matches_congr
    · exact fun q _ => q.typeMatches_filter_isNull (hget "type")
    · intro q _ t _
      apply FeatureTest.matches_congr
      rw [hget]
      exact sameValue_filter_isNull _
  exact ⟨r, hr, hmatches, Session.State.observe_matchOnce_congr hmatches⟩

/-- Fields, an extra value and null under both kinds of names. -/
theorem record_matches_phone :
    let m : Dict Value :=
      ⟨[("width", .int 375), ("type", .null), ("fold", .null), ("device-width", .null),
        ("notch", .ofString "Wide"), ("resolution", .float .nan), ("hover", .ofString "")],
        by decide⟩
    Describes m ∧ ∃ r, EnvironmentRecord.ofValue (.map m.entries) = .ok r ∧
      ∀ (root : Binary64) (qs : QueryList),
        qs.matches root r.toEnvironment = qs.matches root (.ofEntries m.entries) := by
  intro m
  have hm : Describes m := by
    refine ⟨?_, ?_, ?_⟩
    · simp only [m, List.forall_mem_cons]
      exact ⟨.int 375, .null, .null, .null, .text "Wide", .float .nan, .text "", by simp⟩
    · rintro e he ⟨p, hp, hname, hne⟩
      have hall : ∀ name ∈ namesOf m.pairs, ∀ p ∈ EnvironmentRecord.fieldNames,
          name = p.2 → p.2 = p.1 := by
        decide +kernel
      exact hne (hall e.1 (List.mem_map_of_mem he) p hp hname)
    · intro v hv
      have hnull : m.get? "type" = some .null := rfl
      rw [hnull] at hv
      cases hv
      exact .inl rfl
  obtain ⟨r, hr, hmatches, -⟩ := record_matches hm
  exact ⟨hm, r, hr, hmatches⟩

end MediaQuery
