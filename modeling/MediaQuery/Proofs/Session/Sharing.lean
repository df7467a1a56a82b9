import MediaQuery.Proofs.Session.Journal

/-!
# Trees shared through caches

A tree is known by its number. A parse answers the very tree that its cache holds for the text, and
otherwise a new one that is then held for this text by this cache alone; a text that is no query
list leaves no trace: `SharesEntries`. What a parse and an evaluator answer is told by the tree that
the entry or the evaluator holds.
-/

namespace MediaQuery.Session.State

variable {s : State} {a : Action} {actions : List Action} {n tree : Nat} {query : String}

/-! ### Parses -/

/-- The parse that an action starts with: the number of the cache, and the text. -/
def parsed (s : State) : Action → Option (Nat × String)
  | .parse route query => some ((s.openRoute route).1, query)
  | .matchOnce (.query query) _ | .makeEvaluator _ (.query query) => some (s.library.default, query)
  | _ => none

/--
The action goes on with a tree: a match tells whether it matches, and any other answers its number.
A new evaluator keeps it.
-/
def Answers (s : State) (a : Action) (tree : Nat) : Prop :=
  match a with
  | .matchOnce _ env => (s.step a).1 = (s.step a).2.matchTree tree env
  | .makeEvaluator name _ =>
    (s.step a).1 = .ok (.tree tree) ∧ (s.step a).2.evaluators.lookup name = some tree
  | _ => (s.step a).1 = .ok (.tree tree)

/-- A parsing action parses, after making a cache at most, and goes on with the tree. -/
theorem parsed_spec (hs : s.Registered) (h : s.parsed a = some (n, query)) :
    s.effect a = s.library.parseEffect n query ∧ ∃ lib, s.library.Does {} lib ∧
      (∀ tree lib', lib.parse n query = .ok (tree, lib') →
        s.Answers a tree ∧ (s.step a).2.library = lib') ∧
      ∀ e, lib.parse n query = .error e → (s.step a).1 = .error (.grammar e) := by
  cases a with
  | parse route q =>
    cases h
    have hopen := (openRoute_does hs route).1.library
    refine ⟨rfl, _, hopen, fun tree lib' hparse => ?_, fun e hparse => ?_⟩
    · simp only [Answers, step, hparse]
      exact ⟨trivial, rfl⟩
    · simp only [step, hparse]
  | matchOnce subject env =>
    cases subject with
    | tree source => cases h
    | query text =>
      cases h
      refine ⟨rfl, s.library, .refl _, fun tree lib' hparse => ?_, fun e hparse => ?_⟩
      · simp only [Answers, step, openSubject, hparse, Except.map]
        exact ⟨trivial, rfl⟩
      · simp only [step, openSubject, hparse, Except.map]
  | makeEvaluator name subject =>
    cases subject with
    | tree source => cases h
    | query text =>
      cases h
      refine ⟨rfl, s.library, .refl _, fun tree lib' hparse => ?_, fun e hparse => ?_⟩
      · simp only [Answers, step, openSubject, hparse, Except.map]
        exact ⟨⟨trivial, List.lookup_cons_self⟩, rfl⟩
      · simp only [step, openSubject, hparse, Except.map]
  | _ => cases h

/--
A parse over a cache, as a step of a session whose past answers are given. The very tree of an entry
is answered (`hit`). Without an entry a tree that was never answered before is answered, and is the
one new entry of this cache (`miss`), or else the error (`fault`). All other trees and caches are
left alone.
-/
structure SharesEntries (s : State) (past : List (Action × Except Failure Outcome)) (a : Action)
    (n : Nat) (query : String) : Prop where
  hit : ∀ tree, (s.library.cache n).get? query = some tree →
    s.Answers a tree ∧ (s.step a).2.library.trees = s.library.trees ∧
      ∀ m, (s.step a).2.library.cache m = s.library.cache m
  miss : (s.library.cache n).get? query = none → ∀ qs, QueryList.parse query = .ok qs →
    ∃ tree, s.Answers a tree ∧ (∀ b, (b, .ok (.tree tree)) ∉ past) ∧
      (s.step a).2.library.trees = s.library.trees ++ [qs] ∧
      (s.step a).2.library.tree tree = qs ∧
      ((s.step a).2.library.cache n).pairs = (s.library.cache n).pairs ++ [(query, tree)] ∧
      ∀ m, m ≠ n → (s.step a).2.library.cache m = s.library.cache m
  fault : (s.library.cache n).get? query = none → ∀ e, QueryList.parse query = .error e →
    (s.step a).1 = .error (.grammar e) ∧ (s.step a).2.library.trees = s.library.trees ∧
      ∀ m, (s.step a).2.library.cache m = s.library.cache m

theorem sharesEntries_of_parsed {past : List (Action × Except Failure Outcome)}
    (hs : s.Registered)
    (hpast : ∀ b tree, (b, .ok (.tree tree)) ∈ past → tree < s.library.trees.length)
    (h : s.parsed a = some (n, query)) : s.SharesEntries past a n query := by
  obtain ⟨heffect, lib, hlib, hok, herror⟩ := parsed_spec hs h
  have hdoes := (step_does hs a).library
  have hcache : lib.cache n = s.library.cache n := hlib.cache n
  rw [heffect] at hdoes
  refine ⟨fun tree hget => ?_, fun hget qs hqs => ?_, fun hget e he => ?_⟩
  · obtain ⟨hparse, -⟩ := Library.parse_of_get?_eq_some (hcache.symm ▸ hget)
    rw [(Library.parse_of_get?_eq_some hget).2] at hdoes
    exact ⟨(hok tree lib hparse).1, hdoes.trees_eq, hdoes.cache⟩
  · obtain ⟨hparse, -⟩ := Library.parse_of_parse_eq_ok (hcache.symm ▸ hget) hqs
    rw [(Library.parse_of_parse_eq_ok hget hqs).2] at hdoes
    have hnew : (s.step a).2.library.trees = s.library.trees ++ [qs] := hdoes.trees
    rw [hlib.trees_eq] at hparse
    have hanswers := (hok _ _ hparse).1
    refine ⟨s.library.trees.length, hanswers, fun b hb => ?_, hnew, ?_, ?_, fun m hm => ?_⟩
    · exact Nat.lt_irrefl _ (hpast b _ hb)
    · simp [Library.tree, hnew]
    · rw [hdoes.cache, Effect.cache]
      simp only [if_true, Write.apply]
      exact setPair_eq_append hget _
    · rw [hdoes.cache, Effect.cache]
      exact if_neg (Ne.symm hm)
  · obtain ⟨hparse, -⟩ := Library.parse_of_parse_eq_error (hcache.symm ▸ hget) he
    rw [(Library.parse_of_parse_eq_error hget he).2] at hdoes
    exact ⟨herror e hparse, hdoes.trees_eq, hdoes.cache⟩

/-! ### Trees that were answered -/

theorem observe_parse_eq (hs : s.Registered) (route : Route) (query : String) :
    s.observe (.parse route query) =
      match (s.library.cache (s.openRoute route).1).get? query with
      | some tree => .ok (.inl (s.library.tree tree))
      | none => plainParse query := by
  have hshares : s.SharesEntries [] (.parse route query) (s.openRoute route).1 query :=
    sharesEntries_of_parsed hs (fun _ _ hb => absurd hb List.not_mem_nil) rfl
  rw [observe]
  cases hget : (s.library.cache (s.openRoute route).1).get? query with
  | some tree =>
    obtain ⟨hanswer, htrees, -⟩ := hshares.hit tree hget
    have hanswer : (s.step (.parse route query)).1 = .ok (.tree tree) := hanswer
    rw [hanswer, see, Library.tree, htrees]
    rfl
  | none =>
    rw [plainParse]
    cases hqs : QueryList.parse query with
    | ok qs =>
      obtain ⟨tree, hanswer, -, -, htree, -⟩ := hshares.miss hget qs hqs
      have hanswer : (s.step (.parse route query)).1 = .ok (.tree tree) := hanswer
      rw [hanswer, see, htree]
    | error e => rw [(hshares.fault hget e hqs).1, see]

theorem observe_evaluate_eq (s : State) (name : String) (env : Environment) :
    s.observe (.evaluate name env) =
      match s.evaluators.lookup name with
      | some tree => plainMatchTree s.roots.current (s.library.tree tree) env
      | none => .ok (.inr .noTree) := by
  rw [observe, step]
  cases s.evaluators.lookup name with
  | some tree => exact see_matchTree _ _ _
  | none => rfl

end MediaQuery.Session.State
