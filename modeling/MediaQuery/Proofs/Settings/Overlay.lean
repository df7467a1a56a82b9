import MediaQuery.Proofs.Environment.Lookup
import MediaQuery.Settings.Overlay

/-!
# Trees laid over each other

What is found under a key of a tree over which a dictionary was laid (`get?_overlay`), and what
stands at a key once a value is set under a key below it (`placed_tree?`).
-/

namespace MediaQuery

variable {k : String}

/-- The entries of a tree, none if it is no mapping. -/
def Value.entries : Value → Entries Value
  | .map es => es
  | _ => []

/-- What a tree has under a key, null if it has nothing there. -/
def Value.part (v : Value) (key : String) : Value := (v.entries.get? (.text key)).getD .null

theorem Value.part_of_some {v w : Value} (h : v.entries.get? (.text k) = some w) :
    v.part k = w := by
  rw [part, h, Option.getD_some]

theorem overlay_of_not_map {v : Value} (base : Value) (h : ∀ es, v ≠ .map es) :
    overlay base v = v := by
  cases v with
  | map es => exact absurd rfl (h es)
  | scalar | list => rw [overlay]; simp

theorem exists_overlay_map (base : Value) (es : Entries Value) :
    ∃ es', overlay base (.map es) = .map es' := by
  cases base <;> simp [overlay]

theorem overlay_null (v : Value) : overlay .null v = v := by
  cases v <;> simp [overlay]

/-- An entry is laid over what stands under its key. -/
theorem overlayEntry_eq (base : Entries Value) (v : Value) :
    overlayEntry base (.text k, v) =
      base.assign (.text k) (overlay ((Value.map base).part k) v) := by
  rw [overlayEntry, Value.part, Value.entries]
  cases base.get? (.text k) with
  | none => rw [Option.getD_none, overlay_null]
  | some w => rw [Option.getD_some]

theorem get?_overlayEntries {ps : List (String × Value)} (h : (namesOf ps).Nodup)
    (base : Entries Value) :
    (overlayEntries base (Entries.ofNames ps)).get? (.text k) =
      ((ps.lookup k).map (overlay ((Value.map base).part k))).or (base.get? (.text k)) := by
  induction ps generalizing base with
  | nil => simp [overlayEntries, Entries.ofNames]
  | cons p ps ih =>
    obtain ⟨s, v⟩ := p
    obtain ⟨hnew, hps⟩ := List.nodup_cons.1 h
    rw [Entries.ofNames, List.map_cons, overlayEntries, overlayEntry_eq, ← Entries.ofNames, ih hps,
      Entries.get?_assign, lookup_cons_eq]
    by_cases hk : k = s
    · -- the key is laid once, and what follows leaves it alone
      subst hk
      rw [lookup_eq_none_iff_notMem.2 hnew]
      simp
    · rw [if_neg hk, if_neg hk]
      cases ps.lookup k with
      | none => rfl
      | some w => simp [Value.part, Value.entries, Entries.get?_assign, hk]

/-- **What is found in a tree with a dictionary laid over it.** -/
theorem get?_overlay (top : Dict Value) (base : Value) :
    (overlay base (.map top.entries)).entries.get? (.text k) =
      ((top.get? k).map (overlay (base.part k))).or (base.entries.get? (.text k)) := by
  cases base with
  | map base =>
    rw [overlay]
    exact get?_overlayEntries top.distinct base
  | scalar | list =>
    rw [overlay]
    · simp only [Value.part, Value.entries, Dict.get?_entries]
      cases top.get? k with
      | none => rfl
      | some v => simp [Entries.get?, overlay_null]
    · simp

/-! ### Dictionaries as trees -/

theorem Dict.entries_tree? (d : Dict Value) : (d.tree?.getD .null).entries = d.entries := by
  obtain ⟨pairs, distinct⟩ := d
  cases pairs <;> rfl

theorem Dict.eq_of_tree?_eq_some {d : Dict Value} {v : Value} (h : d.tree? = some v) :
    v = .map d.entries := by
  rw [tree?] at h
  split_ifs at h
  exact (Option.some.inj h).symm

theorem Dict.isSome_tree?_iff {d : Dict Value} :
    d.tree?.isSome ↔ ∃ key v, d.get? key = some v := by
  obtain ⟨pairs, distinct⟩ := d
  cases pairs with
  | nil => simp [tree?, get?]
  | cons p ps =>
    have hget : (⟨p :: ps, distinct⟩ : Dict Value).get? p.1 = some p.2 :=
      get?_eq_some_iff.2 List.mem_cons_self
    exact iff_of_true rfl ⟨p.1, p.2, hget⟩

/-- A value that is set has a tree around it. -/
theorem placed_tree? (d : Dict Value) (key : String) (v : Value) :
    some (placed d.tree? [key] v) = (d.set key v).tree? := by
  have hplaced : placed d.tree? [key] v = .map (d.set key v).entries := by
    rw [Dict.entries_set]
    obtain ⟨pairs, distinct⟩ := d
    cases pairs <;> rfl
  have hsome : (d.set key v).tree?.isSome :=
    Dict.isSome_tree?_iff.2 ⟨key, v, by rw [Dict.get?_set, if_pos rfl]⟩
  rw [hplaced]
  rw [Dict.tree?] at hsome ⊢
  split_ifs at hsome ⊢
  · cases hsome
  · rfl

end MediaQuery
