import MediaQuery.Proofs.Session.Step

/-!
# The history of a session

What a session did before does not show in its answers. `observe` is an answer as a user sees it,
a tree by its queries rather than its number; `plainParse` and `plainMatch` are the answers without
caches and parsers, and `history_is_invisible` says that a session gives them after every run that
keeps trees.
-/

namespace MediaQuery.Session

/-- An answer as seen: a tree, or any other outcome. -/
abbrev Observation := Except Failure (QueryList ⊕ Outcome)

/-- An answer as seen, with the trees of a library. -/
def see (lib : Library) : Except Failure Outcome → Observation
  | .ok (.tree n) => .ok (.inl (lib.tree n))
  | .ok outcome => .ok (.inr outcome)
  | .error e => .error e

/-- The answer to a parse without caches. -/
def plainParse (query : String) : Observation :=
  match QueryList.parse query with
  | .ok qs => .ok (.inl qs)
  | .error e => .error (.grammar e)

/-- The answer to a match of a tree. -/
def plainMatchTree (root : Binary64) (qs : QueryList) (env : Environment) : Observation :=
  match qs.matches root env with
  | .ok b => .ok (.inr (.flag b))
  | .error e => .error (.measure e)

/-- The answer to a match of a text without caches. -/
def plainMatch (root : Binary64) (query : String) (env : Environment) : Observation :=
  match QueryList.parse query with
  | .ok qs => plainMatchTree root qs env
  | .error e => .error (.grammar e)

namespace State

variable {s : State} {actions : List Action}

/-- What an action answers, as seen. -/
def observe (s : State) (a : Action) : Observation := see (s.step a).2.library (s.step a).1

/-- The actions of a run, each with its answer. -/
def trace (s : State) : List Action → List (Action × Except Failure Outcome)
  | [] => []
  | a :: actions => (a, (s.step a).1) :: (s.step a).2.trace actions

/-- The last evaluator of a name that was made is of a subject. -/
def MadeLast (trace : List (Action × Except Failure Outcome)) (name : String) (subject : Subject) :
    Prop :=
  ∃ before outcome after, trace = before ++ (.makeEvaluator name subject, .ok outcome) :: after ∧
    ∀ subject' outcome', (.makeEvaluator name subject', .ok outcome') ∉ after

/-- A coherent library, and root font sizes above zero. -/
structure Sound (s : State) : Prop where
  library : s.library.Coherent
  roots : ∀ size ∈ s.roots.sizes, Binary64.zero.lt size

/-! ### Soundness -/

theorem sound_initial : initial.Sound := by
  refine ⟨Library.coherent_initial, ?_⟩
  decide +kernel

theorem Moves.library {a : Action} {s' : State} (h : s.Moves a s') (hs : s.library.Coherent) :
    s.library.Grows s'.library := by
  cases h with
  | opens hopen => exact hopen.library
  | resizes => exact .refl _
  | makes ha hopen => exact (opens_openSubject hs hopen).1.library

theorem Sound.moves {a : Action} {s' : State} (hs : s.Sound) (h : s.Moves a s') : s'.Sound := by
  refine ⟨(h.library hs.library).coherent hs.library, ?_⟩
  cases h with
  | opens hopen =>
    rw [hopen.roots]
    exact hs.roots
  | resizes hsizes => exact fun size hsize => (hsizes size hsize).elim (hs.roots size) id
  | makes ha hopen =>
    have hroots := (opens_openSubject hs.library hopen).1.roots
    rw [hroots]
    exact hs.roots

theorem Sound.step {a : Action} (hs : s.Sound) (ha : a.keepsTrees) : (s.step a).2.Sound :=
  hs.moves (step_moves hs.library ha)

/-- **Every run that keeps trees keeps soundness.** -/
theorem Sound.run (hs : s.Sound) (h : ∀ a ∈ actions, a.keepsTrees) : (s.run actions).2.Sound := by
  induction actions generalizing s with
  | nil => exact hs
  | cons a actions ih =>
    obtain ⟨ha, hactions⟩ := List.forall_mem_cons.1 h
    exact ih (hs.step ha) hactions

/-! ### Trees and evaluators of a run -/

theorem trees_run (hs : s.Sound) (h : ∀ a ∈ actions, a.keepsTrees) :
    s.library.trees <+: (s.run actions).2.library.trees := by
  induction actions generalizing s with
  | nil => exact List.prefix_rfl
  | cons a actions ih =>
    obtain ⟨ha, hactions⟩ := List.forall_mem_cons.1 h
    have hstep := (step_moves hs.library ha).library hs.library
    exact hstep.trees.trans (ih (hs.step ha) hactions)

/-- An action that makes no evaluator of a name leaves the name as it is. -/
theorem lookup_step {a : Action} {name : String} (hs : s.Sound) (ha : a.keepsTrees)
    (h : ∀ subject outcome, (a, (s.step a).1) ≠ (.makeEvaluator name subject, .ok outcome)) :
    (s.step a).2.evaluators.lookup name = s.evaluators.lookup name := by
  have hmoves := step_moves hs.library ha
  generalize hs' : (s.step a).2 = s' at hmoves ⊢
  cases hmoves with
  | opens hopen => rw [hopen.evaluators]
  | resizes => rfl
  | @makes name' subject tree s' hmake hopen =>
    have hanswer : (s.step a).1 = .ok (.tree tree) := by
      rw [hmake, step, hopen]
    have hname : (name == name') = false := by
      rw [beq_eq_false_iff_ne]
      rintro rfl
      exact h subject _ (by rw [hanswer, hmake])
    rw [List.lookup_cons, hname, (opens_openSubject hs.library hopen).1.evaluators]

theorem lookup_run {name : String} (hs : s.Sound) (h : ∀ a ∈ actions, a.keepsTrees)
    (hnot : ∀ subject outcome, (.makeEvaluator name subject, .ok outcome) ∉ s.trace actions) :
    (s.run actions).2.evaluators.lookup name = s.evaluators.lookup name := by
  induction actions generalizing s with
  | nil => rfl
  | cons a actions ih =>
    obtain ⟨ha, hactions⟩ := List.forall_mem_cons.1 h
    have hhead : ∀ subject outcome,
        (a, (s.step a).1) ≠ (.makeEvaluator name subject, .ok outcome) :=
      fun subject outcome heq => hnot subject outcome (heq ▸ List.mem_cons_self)
    have htail : ∀ subject outcome,
        (.makeEvaluator name subject, .ok outcome) ∉ (s.step a).2.trace actions :=
      fun subject outcome hmem => hnot subject outcome (List.mem_cons_of_mem _ hmem)
    exact (ih (hs.step ha) hactions htail).trans (lookup_step hs ha hhead)

/-- An evaluator just made of a text has a tree of the text. -/
theorem lookup_makeEvaluator {name query : String} {outcome : Outcome} (hs : s.Sound)
    (h : (s.step (.makeEvaluator name (.query query))).1 = .ok outcome) :
    ∃ tree, (s.step (.makeEvaluator name (.query query))).2.evaluators.lookup name = some tree ∧
      (s.step (.makeEvaluator name (.query query))).2.library.Holds tree query := by
  cases hopen : s.openSubject (.query query) with
  | error e => simp [step, hopen] at h
  | ok result =>
    have hholds := (opens_openSubject hs.library hopen).2 query rfl
    refine ⟨result.1, ?_, ?_⟩
    · simp [step, hopen]
    · simpa [step, hopen] using hholds

/-- The evaluator of a name keeps the tree of the text that it was last made of. -/
theorem lookup_of_madeLast {name query : String} (hs : s.Sound) (h : ∀ a ∈ actions, a.keepsTrees)
    (hmade : MadeLast (s.trace actions) name (.query query)) :
    ∃ tree, (s.run actions).2.evaluators.lookup name = some tree ∧
      (s.run actions).2.library.Holds tree query := by
  induction actions generalizing s with
  | nil =>
    obtain ⟨before, outcome, after, htrace, -⟩ := hmade
    simp [trace] at htrace
  | cons a actions ih =>
    obtain ⟨ha, hactions⟩ := List.forall_mem_cons.1 h
    have hs' := hs.step ha
    obtain ⟨before, outcome, after, htrace, hafter⟩ := hmade
    cases before with
    | cons first before =>
      -- the evaluator is made later in the run
      exact ih hs' hactions ⟨before, outcome, after, (List.cons_eq_cons.1 htrace).2, hafter⟩
    | nil =>
      -- it is made by this step, and the rest of the run leaves its name and its tree alone
      obtain ⟨hhead, htail⟩ := List.cons_eq_cons.1 htrace
      obtain ⟨rfl, hanswer⟩ := Prod.mk.inj hhead
      obtain ⟨tree, hlookup, hholds⟩ := lookup_makeEvaluator hs hanswer
      have hkeep := lookup_run hs' hactions (htail ▸ hafter)
      exact ⟨tree, hkeep.trans hlookup, hholds.mono (trees_run hs' hactions)⟩

/-! ### Answers -/

theorem observe_parse (hs : s.library.Coherent) (route : Route) (query : String) :
    s.observe (.parse route query) = plainParse query := by
  have hcoherent := (opens_openRoute s route).library.coherent hs
  have hparse := hcoherent.parse_eq (s.openRoute route).1 query
  rw [plainParse, ← hparse]
  simp only [observe, step]
  cases (s.openRoute route).2.library.parse (s.openRoute route).1 query <;> rfl

theorem see_matchTree (lib : Library) (tree : Nat) (env : Environment) :
    see lib (s.matchTree tree env) = plainMatchTree s.roots.current (s.library.tree tree) env := by
  rw [matchTree, plainMatchTree]
  cases (s.library.tree tree).matches s.roots.current env <;> rfl

theorem plainMatch_of_holds {tree : Nat} {query : String} (h : s.library.Holds tree query)
    (root : Binary64) (env : Environment) :
    plainMatch root query env = plainMatchTree root (s.library.tree tree) env := by
  rw [plainMatch, h.parse]

theorem observe_matchOnce (hs : s.library.Coherent) (query : String) (env : Environment) :
    s.observe (.matchOnce (.query query) env) = plainMatch s.roots.current query env := by
  rw [observe, step]
  cases hopen : s.openSubject (.query query) with
  | ok result =>
    obtain ⟨hopens, hholds⟩ := opens_openSubject hs hopen
    rw [plainMatch_of_holds (hholds query rfl), ← hopens.roots]
    exact see_matchTree _ _ _
  | error e =>
    have hparse := hs.parse_eq s.library.default query
    rw [openSubject] at hopen
    cases hlib : s.library.parse s.library.default query with
    | ok result => simp [hlib, Except.map] at hopen
    | error e' =>
      rw [hlib] at hparse hopen
      cases hopen
      rw [plainMatch, ← hparse]
      rfl

theorem observe_evaluate {name query : String} {tree : Nat}
    (hlookup : s.evaluators.lookup name = some tree) (hholds : s.library.Holds tree query)
    (env : Environment) :
    s.observe (.evaluate name env) = plainMatch s.roots.current query env := by
  rw [observe, step, hlookup, plainMatch_of_holds hholds]
  exact see_matchTree _ _ _

/-! ### New processes -/

/-- A new process in which the root font size is set. -/
def newWith (root : Binary64) : State := (initial.step (.setRoot (.float root))).2

theorem newWith_eq {root : Binary64} (h : Binary64.zero.lt root) :
    newWith root = { initial with roots := ⟨root, []⟩ } := by
  rw [newWith, step, RootSizes.set, readRootSize_of_positive h]
  rfl

/--
**The history of a session is invisible.** After any run that changes no tree in place and stores
none by hand, a parse answers what it answers in a new process; a match answers what it answers in
a new process with the present root font size; and an evaluator answers what a match of its text
answers at that moment.
-/
theorem history_is_invisible (h : ∀ a ∈ actions, a.keepsTrees) :
    let s := (initial.run actions).2
    (∀ route query,
      s.observe (.parse route query) = initial.observe (.parse (.cache .standard) query)) ∧
    (∀ query env, s.observe (.matchOnce (.query query) env) =
      (newWith s.roots.current).observe (.matchOnce (.query query) env)) ∧
    ∀ name query, MadeLast (initial.trace actions) name (.query query) → ∀ env,
      s.observe (.evaluate name env) = s.observe (.matchOnce (.query query) env) := by
  intro s
  have hs : s.Sound := sound_initial.run h
  refine ⟨fun route query => ?_, fun query env => ?_, fun name query hmade env => ?_⟩
  · rw [observe_parse hs.library, observe_parse sound_initial.library]
  · have hnew := newWith_eq (hs.roots _ List.mem_cons_self)
    have hcoherent : (newWith s.roots.current).library.Coherent := by
      rw [hnew]
      exact sound_initial.library
    rw [observe_matchOnce hs.library, observe_matchOnce hcoherent, hnew]
  · obtain ⟨tree, hlookup, hholds⟩ := lookup_of_madeLast sound_initial h hmade
    rw [observe_evaluate hlookup hholds, observe_matchOnce hs.library]

/-- An evaluator outlives a failed parse, a new default cache and changes of the root font size. -/
theorem evaluate_after_renewal :
    let actions : List Action := [
      .setRoot (.int 10), .makeEvaluator "wide" (.query "(width: 48em)"),
      .parse (.parser "own" (.named "small")) "not", .renewDefault, .enterRoot (.int 20)]
    (∀ a ∈ actions, a.keepsTrees) ∧
    MadeLast (initial.trace actions) "wide" (.query "(width: 48em)") ∧
    ∀ env, (initial.run actions).2.observe (.evaluate "wide" env) =
      (initial.run actions).2.observe (.matchOnce (.query "(width: 48em)") env) := by
  intro actions
  have hkeeps : ∀ a ∈ actions, a.keepsTrees := by
    simp [actions, Action.keepsTrees]
  have hok : ((initial.step (.setRoot (.int 10))).2.step
      (.makeEvaluator "wide" (.query "(width: 48em)"))).1.isOk := by
    decide +kernel
  have hmade : MadeLast (initial.trace actions) "wide" (.query "(width: 48em)") := by
    cases hanswer : ((initial.step (.setRoot (.int 10))).2.step
      (.makeEvaluator "wide" (.query "(width: 48em)"))).1 with
    | error e => simp [hanswer, Except.isOk, Except.toBool] at hok
    | ok outcome =>
      refine ⟨[_], outcome, _, by rw [trace, trace, hanswer]; rfl, ?_⟩
      simp [trace]
  exact ⟨hkeeps, hmade, (history_is_invisible hkeeps).2.2 _ _ hmade⟩

end State

end MediaQuery.Session
