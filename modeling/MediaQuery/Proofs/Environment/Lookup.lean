import MediaQuery.Environment
import MediaQuery.Proofs.Dict

/-!
# Looking up keys

A mapping counts by the values of its keys, so each operation on its entries is described by what
can be looked up after it. The entries of a dictionary can be looked up as in the dictionary
(`Dict.get?_entries`), and are the same when they are written one by one (`Dict.ofList_entries`).
-/

namespace MediaQuery

/-! ### Keys of mappings -/

/-- A key that is equal to a text is that text. -/
theorem Scalar.same_text_iff {key : Scalar} {s : String} : key.same (.text s) ↔ key = .text s := by
  unfold same
  cases key with
  | bool | int => simp [wholeNumber?]
  | float x => cases h : x.toInt? <;> simp [wholeNumber?, h]
  | _ => simp [wholeNumber?]

namespace Entries

variable {α : Type} {s t : String} {v : α}

theorem get?_eq_lookup (es : Entries α) : es.get? (.text s) = es.lookup (.text s) := by
  induction es with
  | nil => rfl
  | cons e es ih =>
    obtain ⟨key, w⟩ := e
    rw [get?] at ih
    rw [get?, List.find?_cons, lookup_cons_eq]
    by_cases h : .text s = key
    · simp [← h, Scalar.same_text_iff.2]
    · have hsame : key.same (.text s) = false := by
        rw [Bool.eq_false_iff]
        exact mt Scalar.same_text_iff.1 (Ne.symm h)
      simp [h, hsame, ih]

theorem assign_eq_setPair (es : Entries α) : es.assign (.text s) v = setPair es (.text s) v := by
  induction es with
  | nil => rfl
  | cons e es ih =>
    obtain ⟨key, w⟩ := e
    rw [assign, setPair, ih]
    simp only [Scalar.same_text_iff]

theorem get?_cons_eq (key : Scalar) (w : α) (es : Entries α) :
    Entries.get? ((key, w) :: es) (.text s) =
      if .text s = key then some w else es.get? (.text s) := by
  rw [get?_eq_lookup, get?_eq_lookup, lookup_cons_eq]

theorem get?_assign (es : Entries α) :
    (es.assign (.text s) v).get? (.text t) = if t = s then some v else es.get? (.text t) := by
  rw [assign_eq_setPair, get?_eq_lookup, get?_eq_lookup, lookup_setPair]
  simp only [Scalar.text.injEq]

theorem get?_eq_none_iff {es : Entries α} :
    es.get? (.text s) = none ↔ ∀ e ∈ es, e.1 ≠ .text s := by
  simp [get?, Scalar.same_text_iff]

/-- Entries that are kept or dropped by their key. -/
theorem get?_filter (es : Entries α) (p : Scalar → Bool) :
    Entries.get? (es.filter fun e => p e.1) (.text s) =
      if p (.text s) then es.get? (.text s) else none := by
  rw [get?_eq_lookup, get?_eq_lookup, lookup_filter_name]

theorem get?_firsts (es : Entries α) : Entries.get? (firsts es) (.text s) = es.get? (.text s) := by
  rw [get?_eq_lookup, get?_eq_lookup, lookup_firsts]

theorem get?_ofNames (ps : List (String × α)) : (ofNames ps).get? (.text s) = ps.lookup s := by
  induction ps with
  | nil => rfl
  | cons p ps ih =>
    obtain ⟨k, w⟩ := p
    rw [ofNames, List.map_cons, get?_cons_eq, lookup_cons_eq, ← ih]
    simp [ofNames]

theorem ofNames_setPair (ps : List (String × α)) :
    ofNames (setPair ps s v) = (ofNames ps).assign (.text s) v := by
  rw [assign_eq_setPair]
  induction ps with
  | nil => rfl
  | cons p ps ih =>
    obtain ⟨k, w⟩ := p
    rw [setPair, ofNames, ofNames, List.map_cons, setPair]
    simp only [Scalar.text.injEq]
    split_ifs with h
    · rfl
    · rw [List.map_cons, ← ofNames, ← ofNames, ih]

theorem firsts_ofNames (ps : List (String × α)) : firsts (ofNames ps) = ofNames (firsts ps) := by
  induction ps with
  | nil => rfl
  | cons p ps ih =>
    rw [ofNames, List.map_cons, firsts, ← ofNames, ih, firsts, ofNames, ofNames, List.map_cons,
      List.filter_map]
    simp [Function.comp_def]

end Entries

/-! ### Dictionaries as mappings -/

namespace Dict

variable {α : Type} {s : String} {v : α}

theorem get?_entries (d : Dict α) : d.entries.get? (.text s) = d.get? s :=
  Entries.get?_ofNames d.pairs

theorem entries_set (d : Dict α) : (d.set s v).entries = d.entries.assign (.text s) v :=
  Entries.ofNames_setPair d.pairs

theorem entries_ofPairs (ps : List (String × α)) :
    (ofPairs ps).entries = firsts (Entries.ofNames ps) :=
  (Entries.firsts_ofNames ps).symm

theorem entries_filter (d : Dict α) (p : α → Bool) :
    (d.filter fun e => p e.2).entries = d.entries.filter fun e => p e.2 := by
  rw [entries, entries, Entries.ofNames, Entries.ofNames, List.filter_map]
  rfl

theorem entries_injective : Function.Injective (entries (α := α)) := by
  intro d d' h
  have hpair : Function.Injective fun p : String × α => (Scalar.text p.1, p.2) := by
    intro p p' hp
    obtain ⟨hname, hvalue⟩ := Prod.mk.inj hp
    exact Prod.ext (Scalar.text.inj hname) hvalue
  exact Dict.ext (List.map_injective_iff.2 hpair h)

/-- The entries of a dictionary are the same when they are written one by one. -/
theorem ofList_entries (d : Dict α) : Entries.ofList d.entries = d.entries := by
  have hfold : ∀ ps front : List (String × α),
      (Entries.ofNames ps).foldl (fun acc e => acc.assign e.1 e.2) (Entries.ofNames front) =
        Entries.ofNames (ps.foldl (fun acc p => setPair acc p.1 p.2) front) := by
    intro ps
    induction ps with
    | nil => exact fun front => rfl
    | cons p ps ih =>
      intro front
      have hcons : Entries.ofNames (p :: ps) = (.text p.1, p.2) :: Entries.ofNames ps := rfl
      rw [hcons, List.foldl_cons, ← Entries.ofNames_setPair, ih, List.foldl_cons]
  exact (hfold d.pairs []).trans (congrArg Entries.ofNames (foldl_setPair d.distinct))

/-- A dictionary is the environment of its own entries. -/
theorem ofEntries_entries (d : Dict Value) : Environment.ofEntries d.entries = d := by
  have htexts : d.entries.map (fun e => (e.1.toText, e.2)) = d.pairs := by
    simp only [entries, Entries.ofNames, List.map_map]
    exact List.map_id d.pairs
  rw [Environment.ofEntries, htexts, setAll_pairs]

end Dict

end MediaQuery
