/-!
# Dictionaries

Values by name, in the order in which the names first came. That no name comes twice is part of the
type, so each operation proves it of what it makes.

* `firsts` keeps the pairs whose names come for the first time, `setPair` sets the value of a name;
* `Dict.ofPairs`, `Dict.set`, `Dict.setAll` and `Dict.filter` make dictionaries.
-/

namespace MediaQuery

/-! ### Pairs -/

section Pairs

variable {κ α : Type} {ps : List (κ × α)}

/-- The names of some pairs. -/
def namesOf (ps : List (κ × α)) : List κ := ps.map (·.1)

theorem nodup_filter (h : (namesOf ps).Nodup) (p : κ × α → Bool) :
    (namesOf (ps.filter p)).Nodup :=
  h.sublist (List.filter_sublist.map _)

variable [DecidableEq κ]

/-- The pairs whose names come for the first time. -/
def firsts : List (κ × α) → List (κ × α)
  | [] => []
  | p :: ps => p :: (firsts ps).filter fun q => q.1 ≠ p.1

theorem nodup_firsts (ps : List (κ × α)) : (namesOf (firsts ps)).Nodup := by
  induction ps with
  | nil => exact List.nodup_nil
  | cons p ps ih =>
    refine List.nodup_cons.2 ⟨fun hmem => ?_, nodup_filter ih _⟩
    obtain ⟨q, hq, hname⟩ := List.mem_map.1 hmem
    exact absurd hname (by simpa using (List.mem_filter.1 hq).2)

/-- Pairs with the value of a name set; a known name keeps its place, a new one goes last. -/
def setPair : List (κ × α) → κ → α → List (κ × α)
  | [], name, v => [(name, v)]
  | (n, w) :: ps, name, v => if n = name then (n, v) :: ps else (n, w) :: setPair ps name v

theorem mem_namesOf_setPair {name n : κ} {v : α} :
    n ∈ namesOf (setPair ps name v) ↔ n ∈ namesOf ps ∨ n = name := by
  induction ps with
  | nil => simp [setPair, namesOf]
  | cons p ps ih =>
    obtain ⟨k, w⟩ := p
    rw [setPair]
    split
    · next h => simp [namesOf, ← h, or_comm]
    · simp only [namesOf, List.map_cons, List.mem_cons] at ih ⊢
      rw [ih, or_assoc]

theorem nodup_setPair (h : (namesOf ps).Nodup) (name : κ) (v : α) :
    (namesOf (setPair ps name v)).Nodup := by
  induction ps with
  | nil => exact List.nodup_cons.2 ⟨List.not_mem_nil, List.nodup_nil⟩
  | cons p ps ih =>
    obtain ⟨k, w⟩ := p
    obtain ⟨hk, hps⟩ := List.nodup_cons.1 h
    rw [setPair]
    split
    · exact h
    · next hne =>
      refine List.nodup_cons.2 ⟨fun hmem => ?_, ih hps⟩
      rcases mem_namesOf_setPair.1 hmem with hmem | heq
      · exact hk hmem
      · exact hne heq

end Pairs

/-- Values by name, in the order in which the names first came; each name comes once. -/
@[ext]
structure Dict (α : Type) where
  pairs : List (String × α)
  distinct : (namesOf pairs).Nodup
  deriving DecidableEq, Repr

namespace Dict

variable {α : Type}

/-- Nothing. -/
def empty : Dict α := ⟨[], List.nodup_nil⟩

instance : Inhabited (Dict α) := ⟨empty⟩

instance : Coe (Dict α) (List (String × α)) := ⟨pairs⟩

/-- The value of a name. -/
def get? (d : Dict α) (name : String) : Option α := d.pairs.lookup name

/-- A dictionary of pairs; of several values for a name the first one counts. -/
def ofPairs (ps : List (String × α)) : Dict α := ⟨firsts ps, nodup_firsts ps⟩

/-- The dictionary with a value set; a known name keeps its place, a new one goes last. -/
def set (d : Dict α) (name : String) (v : α) : Dict α :=
  ⟨setPair d.pairs name v, nodup_setPair d.distinct name v⟩

/-- The dictionary with several values set in order. -/
def setAll (d : Dict α) (ps : List (String × α)) : Dict α :=
  ps.foldl (fun acc p => acc.set p.1 p.2) d

/-- The pairs of a dictionary that pass a test. -/
def filter (d : Dict α) (p : String × α → Bool) : Dict α :=
  ⟨d.pairs.filter p, nodup_filter d.distinct p⟩

end Dict

end MediaQuery
