import MediaQuery.Proofs.Environment.Record
import Mathlib.Data.List.Find

/-!
# The two names of a field

A field of a record is given under its name in queries or under its name as a field. If no field is
given under both (`NamedOnce`), the entry of a field is the only one with a key that names it
(`entryOf?`), so it does not matter which of the two names is used: with any of the names changed to
the other ones, the same record is made, or the same complaints are raised in the same order, each
now found under the key that was used. A record says again what it says (`exists_again`).

* `renamed` changes the names of fields, for a choice of names;
* `SameFault` relates the issues before and after.
-/

namespace MediaQuery

/-! ### Results with issues in other places -/

namespace Checked

variable {α β : Type} {R : Issue → Issue → Prop}

/-- The same result, or issues that are related one by one. -/
inductive Alike (R : Issue → Issue → Prop) : Checked α → Checked α → Prop
  | ok (x : α) : Alike R (.ok x) (.ok x)
  | error {issues issues' : List Issue} :
      List.Forall₂ R issues issues' → Alike R (.error issues) (.error issues')

namespace Alike

theorem both {a a' : Checked α} {b b' : Checked β} (ha : Alike R a a') (hb : Alike R b b') :
    Alike R (Checked.both a b) (Checked.both a' b') := by
  cases ha with
  | ok x =>
    cases hb with
    | ok y => exact .ok (x, y)
    | error hissues => exact .error hissues
  | error hfirst =>
    cases hb with
    | ok y => exact .error hfirst
    | error hsecond => exact .error (List.rel_append hfirst hsecond)

theorem map {c c' : Checked α} (f : α → β) (h : Alike R c c') :
    Alike R (Except.map f c) (Except.map f c') := by
  cases h with
  | ok x => exact .ok (f x)
  | error hissues => exact .error hissues

theorem all {cs cs' : List (Checked α)} (h : List.Forall₂ (Alike R) cs cs') :
    Alike R (Checked.all cs) (Checked.all cs') := by
  induction h with
  | nil => exact .ok []
  | cons hc _ ih => exact (hc.both ih).map _

end Alike

end Checked

namespace EnvironmentRecord

open Checked (Alike)

variable {entries : Entries Value} {r : EnvironmentRecord} {p q : String × String} {key : Scalar}
  {chosen : String → Bool}

/-! ### Names -/

/-- The test for the keys that name a field. -/
def isNameOf (p : String × String) (key : Scalar) : Bool := key = .text p.1 ∨ key = .text p.2

/-- The test for the keys that name any field. -/
def isFieldKey (key : Scalar) : Bool := fieldNames.any fun p => isNameOf p key

/-- The other name of the field that a name belongs to; all else has no other name. -/
def otherName (name : String) : String :=
  match fieldNames.find? fun p => isNameOf p (.text name) with
  | some p => if name = p.1 then p.2 else p.1
  | none => name

/-- A key with the other name of its field, if its own is one of those chosen. -/
def renamedKey (chosen : String → Bool) : Scalar → Scalar
  | .text s => .text (if chosen s then otherName s else s)
  | key => key

/-- Entries with the other names of the fields, for the names that are chosen. -/
def renamed (chosen : String → Bool) (entries : Entries Value) : Entries Value :=
  entries.map fun e => (renamedKey chosen e.1, e.2)

/-- No field is given under two names. -/
def NamedOnce (entries : Entries Value) : Prop :=
  ∀ p ∈ fieldNames, ∀ e ∈ entries, ∀ e' ∈ entries,
    e.1 = .text p.1 → e'.1 = .text p.2 → p.1 = p.2

instance : Decidable (NamedOnce entries) :=
  inferInstanceAs (Decidable (∀ p ∈ fieldNames, ∀ e ∈ entries, ∀ e' ∈ entries,
    e.1 = .text p.1 → e'.1 = .text p.2 → p.1 = p.2))

theorem isNameOf_iff : isNameOf p key ↔ key = .text p.1 ∨ key = .text p.2 := by
  rw [isNameOf, decide_eq_true_iff]

theorem isFieldKey_iff : isFieldKey key ↔ ∃ p ∈ fieldNames, isNameOf p key :=
  List.any_eq_true

/-- No name belongs to two fields. -/
theorem eq_of_shared_name : ∀ p ∈ fieldNames, ∀ q ∈ fieldNames,
    p.1 = q.1 ∨ p.1 = q.2 ∨ p.2 = q.1 ∨ p.2 = q.2 → p = q := by
  decide +kernel

theorem eq_of_isNameOf (hp : p ∈ fieldNames) (hq : q ∈ fieldNames) (hpkey : isNameOf p key)
    (hqkey : isNameOf q key) : p = q := by
  refine eq_of_shared_name p hp q hq ?_
  rcases isNameOf_iff.1 hpkey with rfl | rfl
  · rcases isNameOf_iff.1 hqkey with h | h
    · exact .inl (Scalar.text.inj h)
    · exact .inr (.inl (Scalar.text.inj h))
  · rcases isNameOf_iff.1 hqkey with h | h
    · exact .inr (.inr (.inl (Scalar.text.inj h)))
    · exact .inr (.inr (.inr (Scalar.text.inj h)))

/-- Both names belong to the same field. -/
theorem isNameOf_otherName (hp : p ∈ fieldNames) (name : String) :
    isNameOf p (.text (otherName name)) = isNameOf p (.text name) := by
  unfold otherName
  split
  case h_1 q hfind =>
    have hq : q ∈ fieldNames := List.mem_of_find?_eq_some hfind
    have hname : isNameOf q (.text name) := by simpa using List.find?_some hfind
    have hother : isNameOf q (.text (if name = q.1 then q.2 else q.1)) := by
      rw [isNameOf_iff]
      split_ifs
      · exact .inr rfl
      · exact .inl rfl
    rw [Bool.eq_iff_iff]
    constructor
    · intro h
      rwa [eq_of_isNameOf hp hq h hother]
    · intro h
      rwa [eq_of_isNameOf hp hq h hname]
  case h_2 => rfl

theorem isNameOf_renamedKey (chosen : String → Bool) (hp : p ∈ fieldNames) (key : Scalar) :
    isNameOf p (renamedKey chosen key) = isNameOf p key := by
  cases key with
  | text s =>
    rw [renamedKey]
    split_ifs
    · exact isNameOf_otherName hp s
    · rfl
  | _ => rfl

theorem isFieldKey_renamedKey (key : Scalar) :
    isFieldKey (renamedKey chosen key) = isFieldKey key := by
  rw [Bool.eq_iff_iff, isFieldKey_iff, isFieldKey_iff]
  exact exists_congr fun p => and_congr_right fun hp => by rw [isNameOf_renamedKey chosen hp]

/-- Only names of fields are changed. -/
theorem renamedKey_eq (h : isFieldKey key = false) : renamedKey chosen key = key := by
  cases key with
  | text s =>
    have hnone : (fieldNames.find? fun p => isNameOf p (.text s)) = none := by
      rw [List.find?_eq_none]
      exact List.any_eq_false.1 h
    rw [renamedKey, otherName, hnone, ite_self]
  | _ => rfl

/-! ### The entry of a field -/

/-- The first entry that is given for a field. -/
def entryOf? (entries : Entries Value) (p : String × String) : Option (Scalar × Value) :=
  entries.find? fun e => isNameOf p e.1

theorem mem_of_entryOf? {e : Scalar × Value} (h : entryOf? entries p = some e) : e ∈ entries :=
  List.mem_of_find?_eq_some h

theorem isNameOf_of_entryOf? {e : Scalar × Value} (h : entryOf? entries p = some e) :
    isNameOf p e.1 := by
  unfold entryOf? at h
  simpa using List.find?_some h

theorem exists_givenKey? {v : Value} (h : given? entries p.1 p.2 = some v) :
    ∃ key, givenKey? entries p.1 p.2 = some key := by
  obtain ⟨key, hkey, -⟩ := Option.bind_eq_some_iff.1 h
  exact ⟨key, hkey⟩

namespace NamedOnce

theorem eq_key (h : NamedOnce entries) (hp : p ∈ fieldNames) {e e' : Scalar × Value}
    (he : e ∈ entries) (he' : e' ∈ entries) (hname : isNameOf p e.1) (hname' : isNameOf p e'.1) :
    e.1 = e'.1 := by
  rcases isNameOf_iff.1 hname with h1 | h1 <;> rcases isNameOf_iff.1 hname' with h2 | h2
  · rw [h1, h2]
  · rw [h1, h2, h p hp e he e' he' h1 h2]
  · rw [h1, h2, h p hp e' he' e he h2 h1]
  · rw [h1, h2]

/-- What is given under the key of the first entry of a field. -/
theorem get?_eq (h : NamedOnce entries) (hp : p ∈ fieldNames) {s : String} {v : Value}
    (hentry : entryOf? entries p = some (.text s, v)) : entries.get? (.text s) = some v := by
  have hmem := mem_of_entryOf? hentry
  have hname := isNameOf_of_entryOf? hentry
  have hfind : (entries.find? fun e => e.1.same (.text s)) = entryOf? entries p := by
    refine List.find?_congr fun e he => ?_
    rw [Bool.eq_iff_iff, Scalar.same_text_iff]
    constructor
    · intro hkey
      rwa [hkey]
    · intro hkey
      exact h.eq_key hp he hmem hkey hname
  rw [Entries.get?, hfind, hentry]
  rfl

theorem givenKey?_eq (h : NamedOnce entries) (hp : p ∈ fieldNames) :
    (givenKey? entries p.1 p.2).map Scalar.text = (entryOf? entries p).map (·.1) := by
  cases hentry : entryOf? entries p with
  | none =>
    have hnone : ∀ s, isNameOf p (.text s) → entries.get? (.text s) = none := by
      intro s hs
      rw [Entries.get?_eq_none_iff]
      intro e he hkey
      exact List.find?_eq_none.1 hentry e he (by rwa [hkey])
    simp [givenKey?, hnone p.1 (isNameOf_iff.2 (.inl rfl)), hnone p.2 (isNameOf_iff.2 (.inr rfl))]
  | some e =>
    obtain ⟨key, v⟩ := e
    have hmem := mem_of_entryOf? hentry
    have hname := isNameOf_of_entryOf? hentry
    rcases isNameOf_iff.1 hname with rfl | rfl
    · simp [givenKey?, h.get?_eq hp hentry]
    · have hfirst : (entries.get? (.text p.1)).isSome → p.1 = p.2 := by
        intro hsome
        by_contra hne
        have hnone : entries.get? (.text p.1) = none := by
          rw [Entries.get?_eq_none_iff]
          intro e he hkey
          exact hne (h p hp e he _ hmem hkey rfl)
        rw [hnone] at hsome
        cases hsome
      rw [givenKey?, h.get?_eq hp hentry, if_pos (Option.isSome_some)]
      split_ifs with hsome
      · rw [hfirst hsome]
        rfl
      · rfl

theorem given?_eq (h : NamedOnce entries) (hp : p ∈ fieldNames) :
    given? entries p.1 p.2 = (entryOf? entries p).map (·.2) := by
  have hkey := h.givenKey?_eq hp
  cases hentry : entryOf? entries p with
  | none =>
    rw [hentry, Option.map_none, Option.map_eq_none_iff] at hkey
    rw [given?, hkey]
    rfl
  | some e =>
    obtain ⟨key, v⟩ := e
    rw [hentry] at hkey
    obtain ⟨s, hs, rfl⟩ := Option.map_eq_some_iff.1 hkey
    rw [given?, hs, Option.bind_some, h.get?_eq hp hentry]
    rfl

/-- The values that are not taken for fields are those whose keys name no field. -/
theorem isOther_eq (h : NamedOnce entries) {e : Scalar × Value} (he : e ∈ entries) :
    isOther entries e.1 = !isFieldKey e.1 := by
  obtain ⟨key, v⟩ := e
  cases key with
  | text s =>
    have hused : s ∈ usedKeys entries ↔ isFieldKey (.text s) := by
      rw [mem_usedKeys_iff, isFieldKey_iff]
      refine exists_congr fun p => and_congr_right fun hp => ?_
      have hkey := h.givenKey?_eq hp
      constructor
      · intro hs
        rcases eq_or_eq_of_givenKey? hs with rfl | ⟨rfl, -⟩
        · exact isNameOf_iff.2 (.inl rfl)
        · exact isNameOf_iff.2 (.inr rfl)
      · intro hs
        have hsome : (entryOf? entries p).isSome := List.find?_isSome.2 ⟨(.text s, v), he, hs⟩
        obtain ⟨e, hentry⟩ := Option.isSome_iff_exists.1 hsome
        have hsame : e.1 = .text s :=
          h.eq_key hp (mem_of_entryOf? hentry) he (isNameOf_of_entryOf? hentry) hs
        rw [hentry, Option.map_some, hsame] at hkey
        obtain ⟨s', hs', heq⟩ := Option.map_eq_some_iff.1 hkey
        rw [hs', Scalar.text.inj heq]
    rw [isOther, Bool.eq_iff_iff, Bool.not_eq_true', Bool.not_eq_true', Bool.eq_false_iff,
      Bool.eq_false_iff, Ne, Ne, List.contains_iff_mem, hused]
  | _ => simp [isOther, isFieldKey, isNameOf]

/-! ### Renaming -/

theorem renamed (h : NamedOnce entries) : NamedOnce (renamed chosen entries) := by
  rintro p hp _ hmem _ hmem' hkey hkey'
  obtain ⟨e, he, rfl⟩ := List.mem_map.1 hmem
  obtain ⟨e', he', rfl⟩ := List.mem_map.1 hmem'
  have hname : isNameOf p e.1 := by
    rw [← isNameOf_renamedKey chosen hp]
    exact isNameOf_iff.2 (.inl hkey)
  have hname' : isNameOf p e'.1 := by
    rw [← isNameOf_renamedKey chosen hp]
    exact isNameOf_iff.2 (.inr hkey')
  rw [h.eq_key hp he he' hname hname', hkey'] at hkey
  exact (Scalar.text.inj hkey).symm

end NamedOnce

theorem entryOf?_renamed (hp : p ∈ fieldNames) :
    entryOf? (renamed chosen entries) p =
      (entryOf? entries p).map fun e => (renamedKey chosen e.1, e.2) := by
  rw [entryOf?, renamed, List.find?_map]
  congr 2
  funext e
  exact isNameOf_renamedKey chosen hp e.1

/-- A field is given the same under either name. -/
theorem given?_renamed (h : NamedOnce entries) (hp : p ∈ fieldNames) :
    given? (renamed chosen entries) p.1 p.2 = given? entries p.1 p.2 := by
  rw [h.renamed.given?_eq hp, h.given?_eq hp, entryOf?_renamed hp, Option.map_map]
  rfl

/-- The entries of no field are untouched. -/
theorem filter_isOther_renamed (h : NamedOnce entries) :
    (renamed chosen entries).filter (fun e => isOther (renamed chosen entries) e.1) =
      entries.filter fun e => isOther entries e.1 := by
  have hrest : ∀ e ∈ entries.filter (fun e => !isFieldKey e.1),
      (renamedKey chosen e.1, e.2) = e := by
    intro e he
    rw [renamedKey_eq (by simpa using (List.mem_filter.1 he).2)]
  calc (renamed chosen entries).filter (fun e => isOther (renamed chosen entries) e.1)
      = (renamed chosen entries).filter (fun e => !isFieldKey e.1) :=
        List.filter_congr fun e he => h.renamed.isOther_eq he
    _ = (entries.filter fun e => !isFieldKey e.1).map fun e => (renamedKey chosen e.1, e.2) := by
        rw [renamed, List.filter_map]
        simp only [Function.comp_def, isFieldKey_renamedKey]
    _ = entries.filter fun e => !isFieldKey e.1 := by
        rw [List.map_congr_left hrest, List.map_id']
    _ = entries.filter fun e => isOther entries e.1 :=
        (List.filter_congr fun e he => h.isOther_eq he).symm

/--
Issues that differ in the names of fields: the same complaint at the same place below a field, where
the way to a field starts with the key that it is given under; a key that is no text stays where it
is.
-/
inductive SameFault (entries entries' : Entries Value) : Issue → Issue → Prop
  | field {p : String × String} {key key' : String} {place : List Place} {complaint : Complaint} :
      p ∈ fieldNames → givenKey? entries p.1 p.2 = some key →
      givenKey? entries' p.1 p.2 = some key' →
      SameFault entries entries' ⟨.key key :: place, complaint⟩ ⟨.key key' :: place, complaint⟩
  | key (place : List Place) :
      SameFault entries entries' ⟨place, .invalidKey⟩ ⟨place, .invalidKey⟩

theorem alike_field {α : Type} (check : Option Value → Checked α) {x : α}
    (hcheck : check none = .ok x) (h : NamedOnce entries) (hp : p ∈ fieldNames) :
    Alike (SameFault entries (renamed chosen entries))
      ((check (given? entries p.1 p.2)).under (fieldPlace entries p.1 p.2))
      ((check (given? (renamed chosen entries) p.1 p.2)).under
        (fieldPlace (renamed chosen entries) p.1 p.2)) := by
  have hsame : given? (renamed chosen entries) p.1 p.2 = given? entries p.1 p.2 :=
    given?_renamed h hp
  cases hgiven : given? entries p.1 p.2 with
  | none =>
    rw [hsame, hgiven, hcheck]
    exact .ok x
  | some v =>
    rw [hgiven] at hsame
    obtain ⟨key, hkey⟩ := exists_givenKey? hgiven
    obtain ⟨key', hkey'⟩ := exists_givenKey? hsame
    rw [hsame, fieldPlace, fieldPlace, hkey, hkey']
    cases check (some v) with
    | ok y => exact .ok y
    | error issues =>
      refine .error ?_
      rw [List.forall₂_map_left_iff, List.forall₂_map_right_iff, List.forall₂_same]
      exact fun issue _ => .field hp hkey hkey'

theorem alike_extra {entries' : Entries Value} (key : Scalar) (v : Value) :
    Alike (SameFault entries entries') (checkExtra key v) (checkExtra key v) := by
  cases key with
  | text s => exact .ok _
  | _ => exact .error (.cons (.key _) .nil)

/-- **The names of fields do not matter**, apart from the places of issues. -/
theorem alike_renamed (h : NamedOnce entries) :
    Alike (SameFault entries (renamed chosen entries)) (ofEntries entries)
      (ofEntries (renamed chosen entries)) := by
  have htype : (typeName, typeField) ∈ fieldNames := List.mem_cons_self
  have hfeatures : List.Forall₂ (Alike (SameFault entries (renamed chosen entries)))
      (fieldOrder.map fun f => ((checkFeature (given? entries f.name f.fieldName)).under
        (fieldPlace entries f.name f.fieldName)).map fun v => (f, v))
      (fieldOrder.map fun f =>
        ((checkFeature (given? (renamed chosen entries) f.name f.fieldName)).under
          (fieldPlace (renamed chosen entries) f.name f.fieldName)).map fun v => (f, v)) := by
    rw [List.forall₂_map_left_iff, List.forall₂_map_right_iff, List.forall₂_same]
    exact fun f _ => (alike_field checkFeature rfl h (name_mem_fieldNames f)).map _
  have hextras : Alike (SameFault entries (renamed chosen entries))
      (Checked.all ((entries.filter fun e => isOther entries e.1).map fun e => checkExtra e.1 e.2))
      (Checked.all (((renamed chosen entries).filter fun e =>
        isOther (renamed chosen entries) e.1).map fun e => checkExtra e.1 e.2)) := by
    rw [filter_isOther_renamed h]
    refine .all ?_
    rw [List.forall₂_map_left_iff, List.forall₂_map_right_iff, List.forall₂_same]
    exact fun e _ => alike_extra e.1 e.2
  exact (((alike_field checkType rfl h htype).both (.all hfeatures)).both hextras).map _

/-! ### Records as mappings -/

theorem kept_kept (v : Option Value) : kept (kept v) = kept v := by
  rcases v with - | (- | - | - | - | - | - | -) | - | - <;> rfl

theorem checkType_kept {v : Option Value} {t : Option String} (h : checkType v = .ok t) :
    checkType (kept v) = .ok t := by
  unfold checkType at h
  split at h <;> cases h <;> rfl

theorem checkFeature_kept {v w : Option Value} (h : checkFeature v = .ok w) :
    checkFeature (kept v) = .ok w := by
  unfold checkFeature at h
  split at h <;> cases h <;> rfl

/-- The fields of entries under their names in queries, in the order of the record. -/
def fieldEntries (entries : Entries Value) : Entries Value :=
  fieldNames.filterMap fun p => (kept (given? entries p.1 p.2)).map fun v => (.text p.1, v)

/-- The entries of no field that are not null; a key that comes twice counts where it is first. -/
def extraEntries (entries : Entries Value) : Entries Value :=
  (firsts (entries.filter fun e => !isFieldKey e.1)).filter fun e => !isNull e.2

theorem not_isFieldKey_of_mem {e : Scalar × Value} (h : e ∈ extraEntries entries) :
    !isFieldKey e.1 :=
  (List.mem_filter.1 (mem_of_mem_firsts (List.mem_filter.1 h).1)).2

theorem exists_of_mem_fieldEntries {e : Scalar × Value} (h : e ∈ fieldEntries entries) :
    ∃ p ∈ fieldNames, e.1 = .text p.1 := by
  obtain ⟨p, hp, hkept⟩ := List.mem_filterMap.1 h
  obtain ⟨v, -, rfl⟩ := Option.map_eq_some_iff.1 hkept
  exact ⟨p, hp, rfl⟩

namespace NamedOnce

/-- **What a record says**: its fields in their order, then all else in the order given. -/
theorem entries_toEnvironment (h : NamedOnce entries) (hr : Holds entries r) :
    r.toEnvironment.entries = fieldEntries entries ++ extraEntries entries := by
  have hfields : Entries.ofNames (fieldPairs entries) = fieldEntries entries := by
    simp only [Entries.ofNames, fieldPairs, fieldEntries, List.map_filterMap, Option.map_map]
    rfl
  have hextras : (r.extras.filter fun e => !isNull e.2).entries = extraEntries entries := by
    rw [Dict.entries_filter r.extras fun v => !isNull v, hr.extras,
      List.filter_congr fun e he => h.isOther_eq he]
    rfl
  rw [Dict.entries, hr.pairs_toEnvironment, Entries.ofNames, List.map_append, ← Entries.ofNames,
    ← Entries.ofNames, ← Dict.entries, hfields, hextras]

/-- A field is named by what a record says only under its name in queries. -/
theorem key_of_mem (hp : p ∈ fieldNames) {e : Scalar × Value}
    (he : e ∈ fieldEntries entries ++ extraEntries entries) (hname : isNameOf p e.1) :
    e.1 = .text p.1 := by
  rcases List.mem_append.1 he with he | he
  · obtain ⟨q, hq, hkey⟩ := exists_of_mem_fieldEntries he
    rw [hkey] at hname
    rw [hkey, eq_of_isNameOf hp hq hname (isNameOf_iff.2 (.inl rfl))]
  · have hnot := not_isFieldKey_of_mem he
    rw [isFieldKey_iff.2 ⟨p, hp, hname⟩] at hnot
    cases hnot

variable (h : NamedOnce entries) (hr : Holds entries r)
include h hr

theorem again : NamedOnce r.toEnvironment.entries := by
  rw [h.entries_toEnvironment hr]
  intro p hp e he e' he' hkey hkey'
  rw [key_of_mem hp he' (isNameOf_iff.2 (.inr hkey'))] at hkey'
  exact Scalar.text.inj hkey'

theorem given?_again (hp : p ∈ fieldNames) :
    given? r.toEnvironment.entries p.1 p.2 = kept (given? entries p.1 p.2) := by
  have hget : r.toEnvironment.entries.get? (.text p.1) = kept (given? entries p.1 p.2) :=
    (Dict.get?_entries _).trans (hr.get?_field hp)
  cases hkept : kept (given? entries p.1 p.2) with
  | some v =>
    rw [hkept] at hget
    rw [EnvironmentRecord.given?_eq (by rw [hget]; rfl), hget]
  | none =>
    rw [hkept] at hget
    rw [EnvironmentRecord.given?_eq_field hget, Entries.get?_eq_none_iff]
    intro e he hkey
    have hfirst := key_of_mem hp (h.entries_toEnvironment hr ▸ he) (isNameOf_iff.2 (.inr hkey))
    exact Entries.get?_eq_none_iff.1 hget e he hfirst

/-- **A record says again what it says.** -/
theorem exists_again (hok : ofEntries entries = .ok r) :
    ∃ r', ofEntries r.toEnvironment.entries = .ok r' ∧ r'.toEnvironment = r.toEnvironment := by
  obtain ⟨⟨t, htype⟩, hfeatures, -⟩ := exists_ofEntries_iff.1 ⟨r, hok⟩
  obtain ⟨r', hr'⟩ : ∃ r', ofEntries r.toEnvironment.entries = .ok r' := by
    refine exists_ofEntries_iff.2 ⟨⟨t, ?_⟩, fun f => ?_, fun e he _ => ?_⟩
    · rw [h.given?_again hr (p := (typeName, typeField)) List.mem_cons_self]
      exact checkType_kept htype
    · obtain ⟨v, hv⟩ := hfeatures f
      rw [h.given?_again hr (name_mem_fieldNames f)]
      exact ⟨v, checkFeature_kept hv⟩
    · obtain ⟨q, -, rfl⟩ := List.mem_map.1 he
      exact ⟨q, rfl⟩
  refine ⟨r', hr', Dict.entries_injective ?_⟩
  have hfields : fieldEntries r.toEnvironment.entries = fieldEntries entries := by
    refine List.filterMap_congr fun p hp => ?_
    rw [h.given?_again hr hp, kept_kept]
  have hextras : extraEntries (fieldEntries entries ++ extraEntries entries) =
      extraEntries entries := by
    have hnone : (fieldEntries entries).filter (fun e => !isFieldKey e.1) = [] := by
      rw [List.filter_eq_nil_iff]
      intro e he
      obtain ⟨p, hp, hkey⟩ := exists_of_mem_fieldEntries he
      rw [isFieldKey_iff.2 ⟨p, hp, isNameOf_iff.2 (.inl hkey)⟩]
      exact Bool.false_ne_true
    have hall : (extraEntries entries).filter (fun e => !isFieldKey e.1) = extraEntries entries :=
      List.filter_eq_self.2 fun e he => not_isFieldKey_of_mem he
    have hdistinct : (namesOf (extraEntries entries)).Nodup := nodup_filter (nodup_firsts _) _
    rw [extraEntries, List.filter_append, hnone, List.nil_append, hall, firsts_eq_self hdistinct,
      extraEntries, List.filter_filter]
    simp
  rw [(h.again hr).entries_toEnvironment (holds_of_ofEntries hr'), hfields,
    h.entries_toEnvironment hr, hextras]

end NamedOnce

/--
**The two names of a field.** If no field is given under two names, any of the names can be changed
to the other ones. If the entries make a record, the changed ones make the same, which says its
fields under their names in queries and in the order of the record, then all else as given, without
what is null; and what it says makes a record that says the same. If they make none, neither do the
changed ones, and the issues are the same in the same order, each under the key that was used.
-/
theorem ofEntries_renamed (chosen : String → Bool) (h : NamedOnce entries) :
    (∀ r, ofEntries entries = .ok r →
      ofEntries (renamed chosen entries) = .ok r ∧
      r.toEnvironment.entries = fieldEntries entries ++ extraEntries entries ∧
      ∃ r', ofEntries r.toEnvironment.entries = .ok r' ∧
        r'.toEnvironment = r.toEnvironment) ∧
    ∀ issues, ofEntries entries = .error issues →
      ∃ issues', ofEntries (renamed chosen entries) = .error issues' ∧
        List.Forall₂ (SameFault entries (renamed chosen entries)) issues issues' := by
  have halike : Alike (SameFault entries (renamed chosen entries)) (ofEntries entries)
      (ofEntries (renamed chosen entries)) := alike_renamed h
  constructor
  · intro r hr
    have hholds := holds_of_ofEntries hr
    refine ⟨?_, h.entries_toEnvironment hholds, h.exists_again hholds hr⟩
    rw [hr] at halike
    generalize ofEntries (renamed chosen entries) = other at halike
    cases halike
    rfl
  · intro issues hissues
    rw [hissues] at halike
    generalize ofEntries (renamed chosen entries) = other at halike
    cases halike with
    | error hfaults => exact ⟨_, rfl, hfaults⟩

/-- A width under the name of its field, behind a value that is no feature. -/
theorem ofEntries_renamed_width :
    let entries : Entries Value :=
      [(.text "brand", .ofString "x"), (.text "grid", .bool true), (.text "device_width", .int 800)]
    NamedOnce entries ∧ ∃ r, ofEntries entries = .ok r ∧
      ofEntries (renamed (fun _ => true) entries) = .ok r ∧
      r.toEnvironment.entries = fieldEntries entries ++ extraEntries entries ∧
      ∃ r', ofEntries r.toEnvironment.entries = .ok r' ∧
        r'.toEnvironment = r.toEnvironment := by
  intro entries
  have hnamed : NamedOnce entries := by decide +kernel
  let r : EnvironmentRecord :=
    ⟨none, [(.deviceWidth, .int 800), (.grid, .int 1)], .ofPairs [("brand", .ofString "x")]⟩
  have hr : ofEntries entries = .ok r := rfl
  exact ⟨hnamed, r, hr, (ofEntries_renamed (fun _ => true) hnamed).1 r hr⟩

/-- A list for a width: the places of the issues depend on the name. -/
theorem issues_of_renamed_width :
    let entries : Entries Value := [(.text "device-width", .list [])]
    let issuesUnder (key : String) : List Issue :=
      [⟨[.key key, .key "int"], .notInteger⟩, ⟨[.key key, .key "float"], .notNumber⟩,
        ⟨[.key key, .key "str"], .notText⟩]
    NamedOnce entries ∧ ofEntries entries = .error (issuesUnder "device-width") ∧
      ofEntries (renamed (fun _ => true) entries) = .error (issuesUnder "device_width") ∧
      issuesUnder "device_width" ≠ issuesUnder "device-width" := by
  refine ⟨by decide +kernel, by rfl, by rfl, by decide⟩

end EnvironmentRecord

end MediaQuery
