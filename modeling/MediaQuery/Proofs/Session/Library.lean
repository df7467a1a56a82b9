import MediaQuery.Proofs.Dict
import MediaQuery.Session.Library
import Mathlib.Tactic.SplitIfs

/-!
# Coherent libraries

A library is coherent when each text in a cache has a tree that the text parses to. All operations
but storing and changing a tree in place keep a library coherent and keep the trees that it has
(`Grows`), and a parse through any cache of a coherent library gives what a parse without caches
gives (`Coherent.parse`).
-/

namespace MediaQuery.Library

variable {lib lib' lib'' : Library} {n tree : Nat} {query : String}

/-- A tree that a text parses to. -/
def Holds (lib : Library) (tree : Nat) (query : String) : Prop :=
  ∃ qs, lib.trees[tree]? = some qs ∧ QueryList.parse query = .ok qs

/-- Every text of a cache parses to its tree. -/
def Coherent (lib : Library) : Prop :=
  ∀ cache ∈ lib.caches, ∀ entry ∈ cache.pairs, lib.Holds entry.2 entry.1

/-- What operations on a library keep: its trees with their numbers, and coherence. -/
structure Grows (lib lib' : Library) : Prop where
  trees : lib.trees <+: lib'.trees
  coherent : lib.Coherent → lib'.Coherent

theorem Holds.parse (h : lib.Holds tree query) : QueryList.parse query = .ok (lib.tree tree) := by
  obtain ⟨qs, htree, hparse⟩ := h
  rw [hparse, Library.tree, List.getD_eq_getElem?_getD, htree, Option.getD_some]

theorem Holds.mono (h : lib.Holds tree query) (htrees : lib.trees <+: lib'.trees) :
    lib'.Holds tree query := by
  obtain ⟨qs, htree, hparse⟩ := h
  obtain ⟨more, htrees⟩ := htrees
  obtain ⟨hlt, -⟩ := List.getElem?_eq_some_iff.1 htree
  refine ⟨qs, ?_, hparse⟩
  rw [← htrees, List.getElem?_append_left hlt, htree]

namespace Grows

theorem refl (lib : Library) : lib.Grows lib := ⟨List.prefix_rfl, id⟩

theorem trans (h : lib.Grows lib') (h' : lib'.Grows lib'') : lib.Grows lib'' :=
  ⟨h.trees.trans h'.trees, h'.coherent ∘ h.coherent⟩

/-- New caches that hold nothing but what the old ones hold. -/
theorem of_caches {caches : List Cache} {default : Nat}
    (h : ∀ cache ∈ caches, ∀ entry ∈ cache.pairs, ∃ old ∈ lib.caches, entry ∈ old.pairs) :
    lib.Grows ⟨lib.trees, caches, default⟩ := by
  refine ⟨List.prefix_rfl, fun hlib cache hcache entry hentry => ?_⟩
  obtain ⟨old, hold, hmem⟩ := h cache hcache entry hentry
  exact hlib old hold entry hmem

end Grows

/-! ### Operations -/

theorem grows_addTree (lib : Library) (qs : QueryList) : lib.Grows (lib.addTree qs).2 :=
  ⟨List.prefix_append _ _, fun h cache hcache entry hentry =>
    (h cache hcache entry hentry).mono (List.prefix_append _ _)⟩

theorem grows_addCache (lib : Library) : lib.Grows lib.addCache.2 := by
  refine .of_caches fun cache hcache entry hentry => ?_
  rcases List.mem_append.1 hcache with hold | hnew
  · exact ⟨cache, hold, hentry⟩
  · obtain rfl := List.mem_singleton.1 hnew
    exact absurd hentry List.not_mem_nil

theorem grows_renew (lib : Library) : lib.Grows lib.renew.2 :=
  ⟨List.prefix_rfl, (grows_addCache lib).coherent⟩

theorem grows_clear (lib : Library) (n : Nat) : lib.Grows (lib.clear n) := by
  refine .of_caches fun cache hcache entry hentry => ?_
  obtain ⟨i, hi⟩ := List.mem_iff_getElem?.1 hcache
  rw [List.getElem?_modify] at hi
  obtain ⟨old, hold, rfl⟩ := Option.map_eq_some_iff.1 hi
  split_ifs at hentry
  · exact absurd hentry List.not_mem_nil
  · exact ⟨old, List.mem_iff_getElem?.2 ⟨i, hold⟩, hentry⟩

/-- Storing a tree for a text that parses to it. -/
theorem grows_store (n : Nat) (h : lib.Holds tree query) : lib.Grows (lib.store n query tree) := by
  refine ⟨List.prefix_rfl, fun hlib cache hcache entry hentry => ?_⟩
  obtain ⟨i, hi⟩ := List.mem_iff_getElem?.1 hcache
  rw [store, changeCache, List.getElem?_modify] at hi
  obtain ⟨old, hold, rfl⟩ := Option.map_eq_some_iff.1 hi
  have hmem := hlib old (List.mem_iff_getElem?.2 ⟨i, hold⟩)
  split_ifs at hentry
  · rcases mem_setPair hentry with hentry | rfl
    · exact hmem entry hentry
    · exact h
  · exact hmem entry hentry

/-! ### Parsing -/

theorem coherent_initial : initial.Coherent := by
  intro cache hcache entry hentry
  obtain rfl := List.mem_singleton.1 hcache
  exact absurd hentry List.not_mem_nil

theorem Coherent.holds_of_get? (h : lib.Coherent) (hget : (lib.cache n).get? query = some tree) :
    lib.Holds tree query := by
  rw [cache, List.getD_eq_getElem?_getD] at hget
  cases hn : lib.caches[n]? with
  | none =>
    rw [hn, Option.getD_none, Dict.get?_empty] at hget
    cases hget
  | some cache =>
    rw [hn, Option.getD_some] at hget
    exact h cache (List.mem_iff_getElem?.2 ⟨n, hn⟩) (query, tree) (Dict.get?_eq_some_iff.1 hget)

theorem holds_addTree {qs : QueryList} (h : QueryList.parse query = .ok qs) :
    (lib.addTree qs).2.Holds (lib.addTree qs).1 query :=
  ⟨qs, by simp [addTree], h⟩

/-- A parse keeps coherence and answers a tree of the text. -/
theorem Coherent.parse_spec (h : lib.Coherent) {result : Nat × Library}
    (hparse : lib.parse n query = .ok result) :
    lib.Grows result.2 ∧ result.2.Holds result.1 query := by
  rw [Library.parse] at hparse
  cases hget : (lib.cache n).get? query with
  | some tree =>
    -- the cache answers, and coherence says what its tree is
    simp only [hget] at hparse
    cases hparse
    exact ⟨.refl lib, h.holds_of_get? hget⟩
  | none =>
    cases hq : QueryList.parse query with
    | error e => simp [hget, hq] at hparse
    | ok qs =>
      simp only [hget, hq] at hparse
      cases hparse
      have hholds : (lib.addTree qs).2.Holds (lib.addTree qs).1 query := holds_addTree hq
      exact ⟨(grows_addTree lib qs).trans (grows_store n hholds), hholds.mono List.prefix_rfl⟩

/-- **Caches are invisible.** A parse through a cache gives what a parse of the text gives. -/
theorem Coherent.parse_eq (h : lib.Coherent) (n : Nat) (query : String) :
    (lib.parse n query).map (fun result => result.2.tree result.1) = QueryList.parse query := by
  cases hparse : lib.parse n query with
  | ok result => exact (h.parse_spec hparse).2.parse.symm
  | error e =>
    rw [Library.parse] at hparse
    cases hget : (lib.cache n).get? query with
    | some tree => simp [hget] at hparse
    | none =>
      cases hq : QueryList.parse query with
      | error e' => simpa [hget, hq, Except.map, eq_comm] using hparse
      | ok qs => simp [hget, hq] at hparse

end MediaQuery.Library
