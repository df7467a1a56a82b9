import MediaQuery.Dict
import Mathlib.Data.List.Nodup
import Mathlib.Data.List.Forall2
import Mathlib.Data.Option.Basic

/-!
# Looking up names

A dictionary counts by the values of its names, so each operation is described by what can be looked
up after it. As names are distinct, looking up a name is membership (`Dict.get?_eq_some_iff`), and
order does not matter.

* `lookup_firsts`, `lookup_setPair` and the other lemmas on `List.lookup` are about pairs;
* `Dict.get?_set`, `Dict.get?_setAll`, `Dict.get?_ofPairs` and `Dict.get?_filter` are the lookups of
  a dictionary.
-/

namespace MediaQuery

section Pairs

variable {α β : Type}

/-- Pairs made of rows have the names of these. -/
theorem mem_namesOf_filterMap {γ : Type} {rows : List (α × γ)} {f : α × γ → Option β} {name : α}
    (h : name ∈ namesOf (rows.filterMap fun r => (f r).map fun v => (r.1, v))) :
    name ∈ namesOf rows := by
  obtain ⟨e, he, rfl⟩ := List.mem_map.1 h
  obtain ⟨r, hr, hf⟩ := List.mem_filterMap.1 he
  obtain ⟨v, -, rfl⟩ := Option.map_eq_some_iff.1 hf
  exact List.mem_map_of_mem hr

theorem nodup_filterMap {γ : Type} {rows : List (α × γ)} (hrows : (namesOf rows).Nodup)
    (f : α × γ → Option β) :
    (namesOf (rows.filterMap fun r => (f r).map fun v => (r.1, v))).Nodup := by
  induction rows with
  | nil => exact List.nodup_nil
  | cons r rows ih =>
    obtain ⟨hr, hnodup⟩ := List.nodup_cons.1 hrows
    cases hf : f r with
    | none =>
      rw [List.filterMap_cons_none (by simp [hf])]
      exact ih hnodup
    | some v =>
      rw [List.filterMap_cons_some (by simp [hf]; rfl)]
      exact List.nodup_cons.2 ⟨fun hmem => hr (mem_namesOf_filterMap hmem), ih hnodup⟩

variable [DecidableEq α]

theorem lookup_cons_eq (k : α) (v : β) (ps : List (α × β)) (name : α) :
    List.lookup name ((k, v) :: ps) = if name = k then some v else ps.lookup name := by
  rw [List.lookup_cons]
  by_cases h : name = k
  · simp [h]
  · rw [beq_eq_false_iff_ne.2 h, if_neg h]

theorem lookup_eq_none_iff_notMem {ps : List (α × β)} {name : α} :
    ps.lookup name = none ↔ name ∉ namesOf ps := by
  induction ps with
  | nil => simp [namesOf]
  | cons p ps ih =>
    obtain ⟨k, v⟩ := p
    rw [lookup_cons_eq]
    by_cases h : name = k <;> simp_all [namesOf]

theorem lookup_eq_some_iff_mem {ps : List (α × β)} (hps : (namesOf ps).Nodup) {name : α} {v : β} :
    ps.lookup name = some v ↔ (name, v) ∈ ps := by
  induction ps with
  | nil => simp
  | cons p ps ih =>
    obtain ⟨k, w⟩ := p
    obtain ⟨hk, hnodup⟩ := List.nodup_cons.1 hps
    rw [lookup_cons_eq, List.mem_cons, Prod.mk.injEq]
    by_cases h : name = k
    · subst h
      have hnot : (name, v) ∉ ps := fun hmem => hk (List.mem_map.2 ⟨_, hmem, rfl⟩)
      simp [hnot, eq_comm]
    · simp [h, ih hnodup]

/-- Pairs that are kept or dropped by their name. -/
theorem lookup_filter_name (ps : List (α × β)) (p : α → Bool) (name : α) :
    (ps.filter fun e => p e.1).lookup name = if p name then ps.lookup name else none := by
  induction ps with
  | nil => simp
  | cons e ps ih =>
    obtain ⟨k, v⟩ := e
    rw [List.filter_cons, lookup_cons_eq]
    by_cases hk : name = k
    · subst hk
      by_cases hp : p name <;> simp [hp, ih]
    · by_cases hp : p k <;> simp [hp, hk, lookup_cons_eq, ih]

/-- Pairs with related values under the same names. -/
theorem lookup_rel {γ : Type} {R : α → β → γ → Prop} {ps : List (α × β)} {ps' : List (α × γ)}
    (h : List.Forall₂ (fun e e' => e.1 = e'.1 ∧ R e.1 e.2 e'.2) ps ps') (name : α) :
    Option.Rel (R name) (ps.lookup name) (ps'.lookup name) := by
  induction h with
  | nil => exact .none
  | @cons e e' ps ps' he _ ih =>
    obtain ⟨k, v⟩ := e
    obtain ⟨k', w⟩ := e'
    obtain ⟨rfl, hvalues⟩ := he
    rw [lookup_cons_eq, lookup_cons_eq]
    split_ifs with hk
    · subst hk
      exact .some hvalues
    · exact ih

/-- Pairs with other values under the same names. -/
theorem lookup_map {γ : Type} (ps : List (α × β)) (f : β → γ) (name : α) :
    (ps.map fun e => (e.1, f e.2)).lookup name = (ps.lookup name).map f := by
  induction ps with
  | nil => rfl
  | cons e ps ih =>
    obtain ⟨k, v⟩ := e
    rw [List.map_cons, lookup_cons_eq, lookup_cons_eq, ih]
    by_cases h : name = k <;> simp [h]

/-- Pairs made of rows with distinct names, of which some rows make none. -/
theorem lookup_filterMap {γ : Type} {rows : List (α × γ)} (hrows : (namesOf rows).Nodup)
    (f : α × γ → Option β) {row : α × γ} (hrow : row ∈ rows) :
    (rows.filterMap fun r => (f r).map fun v => (r.1, v)).lookup row.1 = f row := by
  induction rows with
  | nil => cases hrow
  | cons head rows ih =>
    obtain ⟨hhead, hnodup⟩ := List.nodup_cons.1 hrows
    rcases List.mem_cons.1 hrow with rfl | hmem
    · -- no later row has the name of the first
      have hrest : (rows.filterMap fun r => (f r).map fun v => (r.1, v)).lookup row.1 = none := by
        rw [lookup_eq_none_iff_notMem]
        exact fun hname => hhead (mem_namesOf_filterMap hname)
      cases hf : f row with
      | none => rw [List.filterMap_cons_none (by simp [hf]), hrest]
      | some v => rw [List.filterMap_cons_some (by simp [hf]; rfl), lookup_cons_eq, if_pos rfl]
    · have hne : row.1 ≠ head.1 := fun h => hhead (List.mem_map.2 ⟨row, hmem, h⟩)
      cases hf : f head with
      | none => rw [List.filterMap_cons_none (by simp [hf]), ih hnodup hmem]
      | some v =>
        rw [List.filterMap_cons_some (by simp [hf]; rfl), lookup_cons_eq, if_neg hne,
          ih hnodup hmem]

theorem lookup_firsts (ps : List (α × β)) (name : α) :
    (firsts ps).lookup name = ps.lookup name := by
  induction ps with
  | nil => rfl
  | cons e ps ih =>
    obtain ⟨k, v⟩ := e
    rw [firsts, lookup_cons_eq, lookup_cons_eq,
      lookup_filter_name (firsts ps) (fun n => decide (n ≠ k)), ih]
    by_cases h : name = k <;> simp [h]

/-- Pairs with distinct names are all there for the first time. -/
theorem firsts_eq_self {ps : List (α × β)} (h : (namesOf ps).Nodup) : firsts ps = ps := by
  induction ps with
  | nil => rfl
  | cons e ps ih =>
    obtain ⟨hnew, hps⟩ := List.nodup_cons.1 h
    rw [firsts, ih hps, List.filter_eq_self.2]
    intro p hp
    have hname : p.1 ≠ e.1 := fun heq => hnew (List.mem_map.2 ⟨p, hp, heq⟩)
    simpa using hname

theorem mem_of_mem_firsts {ps : List (α × β)} {e : α × β} (h : e ∈ firsts ps) : e ∈ ps := by
  induction ps with
  | nil => exact h
  | cons p ps ih =>
    rcases List.mem_cons.1 h with rfl | h
    · exact List.mem_cons_self
    · exact List.mem_cons_of_mem _ (ih (List.mem_filter.1 h).1)

theorem lookup_setPair (ps : List (α × β)) (n : α) (v : β) (name : α) :
    (setPair ps n v).lookup name = if name = n then some v else ps.lookup name := by
  induction ps with
  | nil => exact lookup_cons_eq n v [] name
  | cons e ps ih =>
    obtain ⟨k, w⟩ := e
    rw [setPair]
    by_cases hk : k = n
    · subst hk
      rw [if_pos rfl, lookup_cons_eq, lookup_cons_eq]
      by_cases h : name = k <;> simp [h]
    · rw [if_neg hk, lookup_cons_eq, lookup_cons_eq, ih]
      by_cases h : name = k
      · subst h
        rw [if_pos rfl, if_pos rfl, if_neg hk]
      · rw [if_neg h, if_neg h]

/-- A new name goes last. -/
theorem setPair_eq_append {ps : List (α × β)} {n : α} (h : ps.lookup n = none) (v : β) :
    setPair ps n v = ps ++ [(n, v)] := by
  induction ps with
  | nil => rfl
  | cons e ps ih =>
    obtain ⟨k, w⟩ := e
    rw [lookup_cons_eq] at h
    split_ifs at h with hk
    rw [setPair, if_neg (Ne.symm hk), ih h, List.cons_append]

theorem length_setPair (ps : List (α × β)) (n : α) (v : β) :
    (setPair ps n v).length = ps.length + if (ps.lookup n).isSome then 0 else 1 := by
  induction ps with
  | nil => rfl
  | cons e ps ih =>
    obtain ⟨k, w⟩ := e
    rw [setPair, lookup_cons_eq]
    by_cases hk : k = n
    · simp [hk]
    · rw [if_neg hk, if_neg (Ne.symm hk), List.length_cons, ih, List.length_cons]
      omega

/-- Pairs with new names, set one by one, go last in their order. -/
theorem foldl_setPair {front ps : List (α × β)} (h : (namesOf (front ++ ps)).Nodup) :
    ps.foldl (fun acc p => setPair acc p.1 p.2) front = front ++ ps := by
  induction ps generalizing front with
  | nil => rw [List.foldl_nil, List.append_nil]
  | cons p ps ih =>
    have hnew : front.lookup p.1 = none := by
      rw [lookup_eq_none_iff_notMem]
      intro hmem
      rw [namesOf, List.map_append, List.nodup_append'] at h
      exact h.2.2 hmem List.mem_cons_self
    rw [List.append_cons] at h ⊢
    rw [List.foldl_cons, setPair_eq_append hnew, ih h]

theorem mem_setPair {ps : List (α × β)} {n : α} {v : β} {e : α × β} (h : e ∈ setPair ps n v) :
    e ∈ ps ∨ e = (n, v) := by
  induction ps with
  | nil => exact .inr (List.mem_singleton.1 h)
  | cons head ps ih =>
    obtain ⟨k, w⟩ := head
    rw [setPair] at h
    split_ifs at h with hk
    · subst hk
      rcases List.mem_cons.1 h with rfl | h
      · exact .inr rfl
      · exact .inl (List.mem_cons_of_mem _ h)
    · rcases List.mem_cons.1 h with rfl | h
      · exact .inl List.mem_cons_self
      · exact (ih h).imp_left (List.mem_cons_of_mem _)

end Pairs

namespace Dict

variable {α : Type} {name : String} {v : α}

theorem get?_empty (name : String) : (empty : Dict α).get? name = none := rfl

/-- Looking up a name is membership. -/
theorem get?_eq_some_iff {d : Dict α} : d.get? name = some v ↔ (name, v) ∈ d.pairs :=
  lookup_eq_some_iff_mem d.distinct

theorem get?_ofPairs (ps : List (String × α)) : (ofPairs ps).get? name = ps.lookup name :=
  lookup_firsts ps name

theorem get?_set (d : Dict α) (n : String) (v : α) :
    (d.set n v).get? name = if name = n then some v else d.get? name :=
  lookup_setPair d.pairs n v name

/-- Of several values that are set for a name the last one counts. -/
theorem get?_setAll (d : Dict α) (ps : List (String × α)) :
    (d.setAll ps).get? name = (ps.reverse.lookup name).or (d.get? name) := by
  induction ps generalizing d with
  | nil => simp [setAll]
  | cons p ps ih =>
    obtain ⟨n, v⟩ := p
    have hstep : d.setAll ((n, v) :: ps) = (d.set n v).setAll ps := rfl
    rw [hstep, ih, get?_set, List.reverse_cons, List.lookup_append, lookup_cons_eq, Option.or_assoc]
    by_cases h : name = n <;> simp [h]

theorem pairs_setAll (d : Dict α) (ps : List (String × α)) :
    (d.setAll ps).pairs = ps.foldl (fun acc p => setPair acc p.1 p.2) d.pairs := by
  induction ps generalizing d with
  | nil => rfl
  | cons p ps ih => exact ih (d.set p.1 p.2)

/-- A dictionary is made again of its pairs. -/
theorem setAll_pairs (d : Dict α) : empty.setAll d.pairs = d :=
  Dict.ext ((pairs_setAll empty d.pairs).trans (foldl_setPair d.distinct))

/-- Values that are kept or dropped for themselves. -/
theorem get?_filter (d : Dict α) (p : α → Bool) :
    (d.filter fun e => p e.2).get? name = (d.get? name).filter p := by
  apply Option.ext
  intro v
  rw [get?_eq_some_iff, Option.filter_eq_some_iff, get?_eq_some_iff]
  exact List.mem_filter

/-- Values that are kept or dropped by their names. -/
theorem get?_filter_name (d : Dict α) (p : String → Bool) :
    (d.filter fun e => p e.1).get? name = if p name then d.get? name else none :=
  lookup_filter_name d.pairs p name

end Dict

end MediaQuery
