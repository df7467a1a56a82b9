import MediaQuery.Proofs.Session.Sharing

/-!
# Changes of a tree seen elsewhere

Where no tree is stored by hand, a tree is held by one entry of one cache only (`OnlyAt`), and the
tree of an entry is what its text parses to, with the changes made to that very tree (`Grown`).
`SameBut` compares two runs of which one makes a change of a tree that the other leaves out: they
differ in the queries of that tree and in nothing else.
-/

namespace MediaQuery.Session

/-- Stores a tree by hand. -/
def Action.stores : Action → Bool
  | .store _ _ _ => true
  | _ => false

namespace State

variable {s s' : State} {a : Action} {actions past : List Action} {n tree : Nat} {query : String}

/-! ### Trees held once -/

/-- The tree is held by no other entry. -/
def OnlyAt (s : State) (n : Nat) (query : String) (tree : Nat) : Prop :=
  tree < s.library.trees.length ∧
    ∀ m q, (s.library.cache m).get? q = some tree → m = n ∧ q = query

/-- Unless stored by hand, what is put into a cache is the new tree of its text. -/
theorem born_of_put (ha : ¬ a.stores) (h : (s.effect a).write = some (n, .put query tree)) :
    tree = s.library.trees.length ∧
      ∃ qs, QueryList.parse query = .ok qs ∧ (s.effect a).born = some qs := by
  have hparse : ∀ m q, (s.library.parseEffect m q).write = some (n, .put query tree) →
      tree = s.library.trees.length ∧
        ∃ qs, QueryList.parse query = .ok qs ∧ (s.library.parseEffect m q).born = some qs := by
    intro m q hw
    unfold Library.parseEffect at hw ⊢
    split at hw
    · rename_i qs hget hqs
      cases hw
      exact ⟨rfl, qs, hqs, rfl⟩
    · cases hw
  cases a with
  | parse route q => exact hparse _ _ h
  | matchOnce subject | makeEvaluator _ subject =>
    cases subject with
    | query text => exact hparse _ _ h
    | tree source => cases h
  | store => exact absurd rfl ha
  | clear => cases h
  | _ => cases h

theorem OnlyAt.step (hs : s.Registered) (ha : ¬ a.stores) (h : s.OnlyAt n query tree) :
    (s.step a).2.OnlyAt n query tree := by
  refine ⟨Nat.lt_of_lt_of_le h.1 (length_trees_step hs a), fun m q hget => ?_⟩
  rcases get?_step hs hget with hold | hnew
  · exact h.2 m q hold
  · -- a new entry holds a new tree
    obtain ⟨rfl, -⟩ := born_of_put ha hnew
    exact absurd h.1 (Nat.lt_irrefl _)

theorem OnlyAt.run (hs : s.Registered) (hno : ∀ a ∈ actions, ¬ a.stores)
    (h : s.OnlyAt n query tree) : (s.run actions).2.OnlyAt n query tree := by
  induction actions generalizing s with
  | nil => exact h
  | cons a actions ih =>
    obtain ⟨ha, hactions⟩ := List.forall_mem_cons.1 hno
    exact ih (step_does hs a).registered hactions (h.step hs ha)

/-- Every tree in a cache is held once. -/
def Apart (s : State) : Prop :=
  ∀ n query tree, (s.library.cache n).get? query = some tree → s.OnlyAt n query tree

theorem Apart.step (hs : s.Numbered) (ha : ¬ a.stores) (h : s.Apart) : (s.step a).2.Apart := by
  have hregistered := hs.toRegistered
  intro n query tree hget
  rcases get?_step hregistered hget with hold | hnew
  · exact (h n query tree hold).step hregistered ha
  · obtain ⟨rfl, qs, -, hborn⟩ := born_of_put ha hnew
    refine ⟨?_, fun m q hget' => ?_⟩
    · rw [(step_does hregistered a).library.trees, Effect.length_trees, hborn]
      exact Nat.lt_succ_self _
    · rcases get?_step hregistered hget' with hold | hnew'
      · exact absurd (hs.held m q _ hold) (Nat.lt_irrefl _)
      · rw [hnew] at hnew'
        cases hnew'
        exact ⟨rfl, rfl⟩

/-! ### What entries have grown to -/

/-- The tree of an entry is that of its text, with the changes made to it so far. -/
structure Grown (s : State) (past : List Action) : Prop where
  numbers : ∀ a ∈ past, ∀ n ∈ a.numbers, n < s.library.trees.length
  held : ∀ n query tree, (s.library.cache n).get? query = some tree →
    ∃ qs, QueryList.parse query = .ok qs ∧ s.library.tree tree = changed tree past qs

theorem Grown.step (hs : s.Numbered) (hnum : ∀ n ∈ a.numbers, n < s.library.trees.length)
    (ha : ¬ a.stores) (h : s.Grown past) : (s.step a).2.Grown (past ++ [a]) := by
  have hregistered := hs.toRegistered
  have hnumbers : ∀ b ∈ past ++ [a], ∀ n ∈ b.numbers, n < s.library.trees.length := by
    intro b hb
    rcases List.mem_append.1 hb with hb | hb
    · exact h.numbers b hb
    · rw [List.mem_singleton.1 hb]
      exact hnum
  refine ⟨fun b hb n hn => ?_, fun n query tree hget => ?_⟩
  · exact Nat.lt_of_lt_of_le (hnumbers b hb n hn) (length_trees_step hregistered a)
  rcases get?_step hregistered hget with hold | hnew
  · obtain ⟨qs, hqs, htree⟩ := h.held n query tree hold
    refine ⟨qs, hqs, ?_⟩
    rw [tree_step hregistered (hs.held n query tree hold), htree, changed, changed,
      List.foldl_append]
    rfl
  · obtain ⟨rfl, qs, hqs, hborn⟩ := born_of_put ha hnew
    refine ⟨qs, hqs, ?_⟩
    -- no action so far could name the new tree
    rw [changed_eq_self fun b hb hmem => Nat.lt_irrefl _ (hnumbers b hb _ hmem)]
    rw [Library.tree, (step_does hregistered a).library.trees, List.getD_eq_getElem?_getD,
      Effect.getElem?_length_trees hborn]
    rfl

theorem Apart.run (hs : s.Numbered) (hnum : s.WellNumbered actions)
    (hno : ∀ a ∈ actions, ¬ a.stores) (h : s.Apart) : (s.run actions).2.Apart := by
  induction actions generalizing s with
  | nil => exact h
  | cons a actions ih =>
    obtain ⟨ha, hactions⟩ := List.forall_mem_cons.1 hno
    exact ih (hs.step hnum.1) hnum.2 hactions (h.step hs ha)

theorem Grown.run (hs : s.Numbered) (hnum : s.WellNumbered actions)
    (hno : ∀ a ∈ actions, ¬ a.stores) (h : s.Grown past) :
    (s.run actions).2.Grown (past ++ actions) := by
  induction actions generalizing s past with
  | nil => rwa [List.append_nil]
  | cons a actions ih =>
    obtain ⟨ha, hactions⟩ := List.forall_mem_cons.1 hno
    have hgrown := ih (hs.step hnum.1) hnum.2 hactions (h.step hs hnum.1 ha)
    rwa [List.append_assoc] at hgrown

/-! ### Leaving a change out -/

/-- The state with other trees. -/
def withTrees (s : State) (ts : List QueryList) : State :=
  s.withLibrary { s.library with trees := ts }

theorem openCache_withTrees (s : State) (ts : List QueryList) (cache : CacheName) :
    (s.withTrees ts).openCache cache =
      ((s.openCache cache).1, (s.openCache cache).2.withTrees ts) := by
  cases cache with
  | standard => rfl
  | named name =>
    have hcaches : (s.withTrees ts).caches = s.caches := rfl
    rw [openCache, openCache, hcaches]
    cases s.caches.lookup name <;> rfl

theorem openRoute_withTrees (s : State) (ts : List QueryList) (route : Route) :
    (s.withTrees ts).openRoute route =
      ((s.openRoute route).1, (s.openRoute route).2.withTrees ts) := by
  cases route with
  | cache cache => exact openCache_withTrees s ts cache
  | parser name cache =>
    have hparsers : (s.withTrees ts).parsers = s.parsers := rfl
    rw [openRoute, openRoute, hparsers]
    cases s.parsers.lookup name with
    | some c => exact openCache_withTrees s ts c
    | none => exact openCache_withTrees { s with parsers := s.parsers ++ [(name, cache)] } ts cache

theorem openTree_withTrees {ts : List QueryList} (h : ts.length = s.library.trees.length)
    (source : TreeSource) :
    (s.withTrees ts).openTree source =
      ((s.openTree source).1, (s.openTree source).2.withTrees (ts ++ source.born.toList)) := by
  cases source with
  | numbered n => simp [openTree, TreeSource.born]
  | fresh qs =>
    have hnumber : ((s.withTrees ts).openTree (.fresh qs)).1 = s.library.trees.length := h
    exact Prod.ext hnumber rfl

theorem parse_withTrees {ts : List QueryList} (h : ts.length = s.library.trees.length) (n : Nat)
    (query : String) :
    (s.withTrees ts).library.parse n query =
      (s.library.parse n query).map fun result =>
        (result.1, { result.2 with trees := (s.library.parseEffect n query).trees ts }) := by
  have hcache : (s.withTrees ts).library.cache n = s.library.cache n := rfl
  have htrees : (s.withTrees ts).library.trees = ts := rfl
  cases hget : (s.library.cache n).get? query with
  | some tree =>
    obtain ⟨hparse, heffect⟩ := Library.parse_of_get?_eq_some hget
    rw [(Library.parse_of_get?_eq_some (hcache.symm ▸ hget)).1, hparse, heffect]
    simp [Except.map, Effect.trees, withTrees, withLibrary]
  | none =>
    cases hqs : QueryList.parse query with
    | error e =>
      rw [(Library.parse_of_parse_eq_error (hcache.symm ▸ hget) hqs).1,
        (Library.parse_of_parse_eq_error hget hqs).1]
      rfl
    | ok qs =>
      obtain ⟨hparse, heffect⟩ := Library.parse_of_parse_eq_ok hget hqs
      rw [(Library.parse_of_parse_eq_ok (hcache.symm ▸ hget) hqs).1, hparse, heffect, htrees, h]
      rfl

theorem openSubject_withTrees {ts : List QueryList} (h : ts.length = s.library.trees.length)
    (subject : Subject) :
    (s.withTrees ts).openSubject subject =
      (s.openSubject subject).map fun result =>
        (result.1, result.2.withTrees ((s.subjectEffect subject).trees ts)) := by
  cases subject with
  | query text =>
    have hdefault : (s.withTrees ts).library.default = s.library.default := rfl
    rw [openSubject, openSubject, hdefault, parse_withTrees h]
    cases s.library.parse s.library.default text <;> rfl
  | tree source => exact congrArg Except.ok (openTree_withTrees h source)

/-- **The trees show in answers only**: with other trees of the same number a step does the same. -/
theorem step_withTrees {ts : List QueryList} (hs : s.Registered)
    (h : ts.length = s.library.trees.length) (a : Action) :
    ((s.withTrees ts).step a).2 = (s.step a).2.withTrees ((s.effect a).trees ts) := by
  have hchange : ∀ roots, ((s.withTrees ts).changeRoots roots).2 =
      (s.changeRoots roots).2.withTrees ts := by
    intro roots
    cases roots <;> rfl
  cases a with
  | parse route query =>
    have hopen := (openRoute_does hs route).1.library
    have hlength : ts.length = (s.openRoute route).2.library.trees.length := by
      rw [hopen.trees_eq, h]
    have heffect := hopen.parseEffect_eq (s.openRoute route).1 query
    simp only [step, effect, openRoute_withTrees, parse_withTrees hlength, ← heffect]
    cases hparse : (s.openRoute route).2.library.parse (s.openRoute route).1 query with
    | ok result => rfl
    | error e =>
      rw [Library.parseEffect_of_error hparse, Effect.trees_none]
      rfl
  | store cache query source =>
    have hopen := (openCache_does hs cache).1.library
    have hlength : ts.length = (s.openCache cache).2.library.trees.length := by
      rw [hopen.trees_eq, h]
    simp only [step, openCache_withTrees, openTree_withTrees hlength]
    rfl
  | appendQuery tree q | appendTest tree index t =>
    have htrees : ∀ f, (Effect.mk (some (tree, f)) none none).trees ts = ts.modify tree f :=
      fun f => List.append_nil _
    simp only [step, effect, Action.change?, htrees]
    rfl
  | matchOnce subject env =>
    simp only [step, effect, openSubject_withTrees h]
    cases hopen : s.openSubject subject with
    | ok result => rfl
    | error e =>
      rw [subjectEffect_of_error hopen, Effect.trees_none]
      rfl
  | makeEvaluator name subject =>
    simp only [step, effect, openSubject_withTrees h]
    cases hopen : s.openSubject subject with
    | ok result => rfl
    | error e =>
      rw [subjectEffect_of_error hopen, Effect.trees_none]
      rfl
  -- the other actions have no effect on trees
  | clear cache =>
    have htrees : (s.effect (.clear cache)).trees ts = ts := List.append_nil ts
    simp only [htrees, step, openCache_withTrees]
    rfl
  | lookup cache query =>
    have htrees : (s.effect (.lookup cache query)).trees ts = ts := Effect.trees_none ts
    have hcache : ((s.openCache cache).2.withTrees ts).library.cache (s.openCache cache).1 =
      (s.openCache cache).2.library.cache (s.openCache cache).1 := rfl
    simp only [htrees, step, openCache_withTrees, hcache]
    cases ((s.openCache cache).2.library.cache (s.openCache cache).1).get? query <;> rfl
  | contains cache | size cache | describe cache =>
    simp only [step, effect, Action.change?, Effect.trees_none, openCache_withTrees]
  | identify route =>
    simp only [step, effect, Action.change?, Effect.trees_none, openRoute_withTrees]
  | sameTree | getRoot => simp only [step, effect, Action.change?, Effect.trees_none]
  | renewDefault =>
    simp only [step, effect, Action.change?, Effect.trees_none]
    rfl
  | setRoot size | enterRoot size | leaveRoot =>
    simp only [step, effect, Action.change?, Effect.trees_none]
    exact hchange _
  | configureRoot size =>
    simp only [step, effect, Action.change?, Effect.trees_none]
    split
    · exact hchange _
    · rfl
  | measure m v =>
    have hmeasure : (s.withTrees ts).takeMeasure m v = s.takeMeasure m v := rfl
    simp only [step, effect, Action.change?, Effect.trees_none, hmeasure]
    cases s.takeMeasure m v <;> rfl
  | evaluate name env =>
    have hevaluators : (s.withTrees ts).evaluators = s.evaluators := rfl
    simp only [step, effect, Action.change?, Effect.trees_none, hevaluators]
    cases s.evaluators.lookup name <;> rfl

/-! ### Runs without a change -/

/-- The states differ in the queries of one tree, and in nothing else. -/
def SameBut (tree : Nat) (s s' : State) : Prop :=
  ∃ ts, s' = s.withTrees ts ∧ ts.length = s.library.trees.length ∧
    ∀ u, u ≠ tree → ts[u]? = s.library.trees[u]?

theorem SameBut.step (hs : s.Registered) (h : SameBut tree s s') (a : Action) :
    SameBut tree (s.step a).2 (s'.step a).2 := by
  obtain ⟨ts, rfl, hlength, hts⟩ := h
  have htrees := (step_does hs a).library.trees
  refine ⟨_, step_withTrees hs hlength a, ?_, fun u hu => ?_⟩
  · rw [htrees, Effect.length_trees, Effect.length_trees, hlength]
  · rw [htrees]
    exact Effect.getElem?_trees_congr hlength (hts u hu) _

theorem SameBut.run (hs : s.Registered) (h : SameBut tree s s') (actions : List Action) :
    SameBut tree (s.run actions).2 (s'.run actions).2 := by
  induction actions generalizing s s' with
  | nil => exact h
  | cons a actions ih => exact ih (step_does hs a).registered (h.step hs a)

theorem SameBut.tree_eq {u : Nat} (h : SameBut tree s s') (hu : u ≠ tree) :
    s'.library.tree u = s.library.tree u := by
  obtain ⟨ts, rfl, -, hts⟩ := h
  rw [Library.tree, Library.tree, List.getD_eq_getElem?_getD, List.getD_eq_getElem?_getD,
    ← hts u hu]
  rfl

theorem SameBut.cache_eq (h : SameBut tree s s') (route : Route) :
    s'.library.cache (s'.openRoute route).1 = s.library.cache (s.openRoute route).1 := by
  obtain ⟨ts, rfl, -⟩ := h
  rw [openRoute_withTrees]
  rfl

theorem SameBut.evaluators_eq (h : SameBut tree s s') : s'.evaluators = s.evaluators := by
  obtain ⟨ts, rfl, -⟩ := h
  rfl

theorem SameBut.roots_eq (h : SameBut tree s s') : s'.roots = s.roots := by
  obtain ⟨ts, rfl, -⟩ := h
  rfl

/-- A parse that goes on with another tree answers the same. -/
theorem SameBut.observe_parse (h : SameBut tree s s') (hs : s.Registered) (hs' : s'.Registered)
    (route : Route) (query : String)
    (hother : (s.library.cache (s.openRoute route).1).get? query ≠ some tree) :
    s'.observe (.parse route query) = s.observe (.parse route query) := by
  rw [observe_parse_eq hs, observe_parse_eq hs', h.cache_eq]
  cases hget : (s.library.cache (s.openRoute route).1).get? query with
  | none => rfl
  | some u =>
    have hu : u ≠ tree := by
      rintro rfl
      exact hother hget
    simp only [h.tree_eq hu]

/-- An evaluator of another tree answers the same. -/
theorem SameBut.observe_evaluate (h : SameBut tree s s') (name : String)
    (hother : s.evaluators.lookup name ≠ some tree) (env : Environment) :
    s'.observe (.evaluate name env) = s.observe (.evaluate name env) := by
  rw [observe_evaluate_eq, observe_evaluate_eq, h.evaluators_eq, h.roots_eq]
  cases hlookup : s.evaluators.lookup name with
  | none => rfl
  | some u =>
    have hu : u ≠ tree := by
      rintro rfl
      exact hother hlookup
    simp only [h.tree_eq hu]

end State

end MediaQuery.Session
