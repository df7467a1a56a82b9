import MediaQuery.Proofs.Session.Library
import MediaQuery.Session.Basic

/-!
# What a step changes

An action that keeps trees opens caches and trees (`Opens`), or changes the root font size, or
makes an evaluator; `step_moves` says so once for all actions. Soundness of a state, that its
library is coherent and its root font sizes are above zero, is kept by each such change and so by
every run.
-/

namespace MediaQuery

/-! ### Root font sizes -/

theorem positive_of_readRootSize {v : Value} {x : Binary64} (h : readRootSize v = .ok x) :
    Binary64.zero.lt x := by
  rw [readRootSize] at h
  cases hv : sizeNumber v with
  | error e => simp [hv] at h
  | ok y =>
    rw [hv] at h
    by_cases hy : Binary64.zero.lt y
    · simp only [positiveSize, if_pos hy] at h
      cases h
      exact hy
    · simp [positiveSize, hy] at h

/-- A number above zero is never refused. -/
theorem readRootSize_of_positive {x : Binary64} (h : Binary64.zero.lt x) :
    readRootSize (.float x) = .ok x := by
  change positiveSize x = .ok x
  rw [positiveSize, if_pos h]

namespace RootSizes

variable {roots roots' : RootSizes} {v : Value}

theorem configure_of_positive (roots : RootSizes) {units : UnitSettings}
    (h : Binary64.zero.lt units.rootFontSize) :
    roots.configure units = .ok ⟨units.rootFontSize, roots.saved⟩ := by
  rw [configure, set, readRootSize_of_positive h]
  rfl

/-- The sizes in force and to go back to. -/
def sizes (roots : RootSizes) : List Binary64 := roots.current :: roots.saved

/-- A change that brings in no size but those above zero. -/
def Resizes (roots roots' : RootSizes) : Prop :=
  ∀ size ∈ roots'.sizes, size ∈ roots.sizes ∨ Binary64.zero.lt size

/-- A size that is read comes in front of sizes that are there already. -/
theorem resizes_read {saved : List Binary64} (hsaved : ∀ size ∈ saved, size ∈ roots.sizes)
    (h : (readRootSize v).map (fun x => RootSizes.mk x saved) = .ok roots') :
    roots.Resizes roots' := by
  cases hv : readRootSize v with
  | error e => simp [hv, Except.map] at h
  | ok x =>
    rw [hv] at h
    cases h
    intro size hsize
    rcases List.mem_cons.1 hsize with rfl | hsize
    · exact .inr (positive_of_readRootSize hv)
    · exact .inl (hsaved size hsize)

theorem resizes_set (h : roots.set v = .ok roots') : roots.Resizes roots' :=
  resizes_read (fun _ => List.mem_cons_of_mem _) h

theorem resizes_enter (h : roots.enter v = .ok roots') : roots.Resizes roots' :=
  resizes_read (fun _ => id) h

theorem resizes_leave (h : roots.leave = .ok roots') : roots.Resizes roots' := by
  rw [leave] at h
  cases hsaved : roots.saved with
  | nil =>
    rw [hsaved] at h
    cases h
    exact fun size hsize => .inl hsize
  | cons last saved =>
    rw [hsaved] at h
    refine resizes_read (fun size hsize => ?_) h
    simp [sizes, hsaved, hsize]

end RootSizes

namespace Session

/-- Actions other than those that store a tree by hand or change one in place. -/
def Action.keepsTrees : Action → Bool
  | .store _ _ _ | .appendQuery _ _ | .appendTest _ _ _ => false
  | _ => true

namespace State

variable {s s' s'' : State} {a : Action}

/-! ### Opening caches and trees -/

/-- Changes of the library alone, apart from names of caches and parsers. -/
structure Opens (s s' : State) : Prop where
  library : s.library.Grows s'.library
  evaluators : s'.evaluators = s.evaluators
  roots : s'.roots = s.roots

namespace Opens

theorem refl (s : State) : s.Opens s := ⟨.refl _, rfl, rfl⟩

theorem trans (h : s.Opens s') (h' : s'.Opens s'') : s.Opens s'' :=
  ⟨h.library.trans h'.library, h'.evaluators.trans h.evaluators, h'.roots.trans h.roots⟩

theorem withLibrary {lib : Library} (h : s.library.Grows lib) : s.Opens (s.withLibrary lib) :=
  ⟨h, rfl, rfl⟩

end Opens

theorem opens_openCache (s : State) (cache : CacheName) : s.Opens (s.openCache cache).2 := by
  cases cache with
  | standard => exact .refl s
  | named name =>
    rw [openCache]
    cases s.caches.lookup name with
    | some n => exact .refl s
    | none => exact ⟨Library.grows_addCache _, rfl, rfl⟩

theorem opens_openRoute (s : State) (route : Route) : s.Opens (s.openRoute route).2 := by
  cases route with
  | cache cache => exact opens_openCache s cache
  | parser name cache =>
    rw [openRoute]
    cases s.parsers.lookup name with
    | some cache => exact opens_openCache s cache
    | none =>
      have hparser : s.Opens { s with parsers := s.parsers ++ [(name, cache)] } :=
        ⟨.refl _, rfl, rfl⟩
      exact hparser.trans (opens_openCache _ cache)

theorem opens_openTree (s : State) (source : TreeSource) : s.Opens (s.openTree source).2 := by
  cases source with
  | numbered n => exact .refl s
  | fresh qs => exact .withLibrary (Library.grows_addTree _ qs)

/-- Opening a subject opens its tree; that of a query holds its text. -/
theorem opens_openSubject (hs : s.library.Coherent) {subject : Subject} {tree : Nat}
    (h : s.openSubject subject = .ok (tree, s')) :
    s.Opens s' ∧ ∀ text, subject = .query text → s'.library.Holds tree text := by
  cases subject with
  | tree source =>
    have hs' : s.openTree source = (tree, s') := Except.ok.inj h
    obtain rfl : (s.openTree source).2 = s' := congrArg Prod.snd hs'
    exact ⟨opens_openTree s source, nofun⟩
  | query text =>
    rw [openSubject] at h
    cases hparse : s.library.parse s.library.default text with
    | error e => simp [hparse, Except.map] at h
    | ok result =>
      rw [hparse] at h
      cases h
      obtain ⟨hgrows, hholds⟩ := hs.parse_spec hparse
      refine ⟨.withLibrary hgrows, fun text' htext => ?_⟩
      cases htext
      exact hholds

/-! ### Steps -/

/-- What an action that keeps trees can do to a state. -/
inductive Moves (s : State) (a : Action) : State → Prop
  | opens {s' : State} : s.Opens s' → s.Moves a s'
  | resizes {roots : RootSizes} : s.roots.Resizes roots → s.Moves a { s with roots := roots }
  | makes {name : String} {subject : Subject} {tree : Nat} {s' : State} :
      a = .makeEvaluator name subject → s.openSubject subject = .ok (tree, s') →
      s.Moves a { s' with evaluators := (name, tree) :: s'.evaluators }

theorem moves_changeRoots {roots : Except RootSizeError RootSizes}
    (h : ∀ roots', roots = .ok roots' → s.roots.Resizes roots') :
    s.Moves a (s.changeRoots roots).2 := by
  cases roots with
  | error e => exact .opens (.refl s)
  | ok roots' => exact .resizes (h roots' rfl)

/-- **Every step is one of three moves.** -/
theorem step_moves (hs : s.library.Coherent) (ha : a.keepsTrees) : s.Moves a (s.step a).2 := by
  cases a with
  | store | appendQuery | appendTest => simp [Action.keepsTrees] at ha
  | parse route query =>
    have hopen := opens_openRoute s route
    have hcoherent := hopen.library.coherent hs
    simp only [step]
    split
    · rename_i tree lib hparse
      exact .opens (hopen.trans (.withLibrary (hcoherent.parse_spec hparse).1))
    · exact .opens hopen
  | lookup cache query =>
    have hopen := opens_openCache s cache
    simp only [step]
    split <;> exact .opens hopen
  | contains cache query => exact .opens (opens_openCache s cache)
  | size cache => exact .opens (opens_openCache s cache)
  | describe cache => exact .opens (opens_openCache s cache)
  | clear cache =>
    exact .opens ((opens_openCache s cache).trans (.withLibrary (Library.grows_clear _ _)))
  | renewDefault => exact .opens (.withLibrary (Library.grows_renew _))
  | identify route => exact .opens (opens_openRoute s route)
  | sameTree | getRoot => exact .opens (.refl s)
  | setRoot size => exact moves_changeRoots fun _ => RootSizes.resizes_set
  | configureRoot size =>
    rw [step]
    split
    · exact moves_changeRoots fun _ => RootSizes.resizes_set
    · exact .opens (.refl s)
  | enterRoot size => exact moves_changeRoots fun _ => RootSizes.resizes_enter
  | leaveRoot => exact moves_changeRoots fun _ => RootSizes.resizes_leave
  | measure m v =>
    rw [step]
    split <;> exact .opens (.refl s)
  | matchOnce subject env =>
    rw [step]
    split
    · rename_i hopen
      exact .opens (opens_openSubject hs hopen).1
    · exact .opens (.refl s)
  | makeEvaluator name subject =>
    rw [step]
    split
    · rename_i hopen
      exact .makes rfl hopen
    · exact .opens (.refl s)
  | evaluate name env =>
    rw [step]
    split <;> exact .opens (.refl s)

end State

end Session

end MediaQuery
