import MediaQuery.Proofs.Session.History
import MediaQuery.Proofs.Session.Journal
import MediaQuery.Proofs.Settings.Loading

/-!
# The root font size of a session

Contexts are left through the same check as any size is set, so leaving one could fail. It never
does: every size in force or saved is above zero, whatever a session does (`positive_run`). What
happens between entering a context and leaving it is `Balanced`, and keeps the saved sizes, failed
steps included (`saved_run_of_balanced`); so the size at the time of entering comes back.
-/

namespace MediaQuery

namespace RootSizes

variable {roots roots' : RootSizes}

/-- All sizes in force and to go back to are above zero. -/
def Positive (roots : RootSizes) : Prop := ∀ size ∈ roots.sizes, Binary64.zero.lt size

theorem Resizes.refl (roots : RootSizes) : roots.Resizes roots := fun _ => .inl

theorem Positive.resizes (h : roots.Positive) (hr : roots.Resizes roots') : roots'.Positive :=
  fun size hsize => (hr size hsize).elim (h size) id

/-- **Leaving puts the newest saved size back**, since that size passes the check. -/
theorem Positive.leave_eq (h : roots.Positive) {size : Binary64} {saved : List Binary64}
    (hsaved : roots.saved = size :: saved) : roots.leave = .ok ⟨size, saved⟩ := by
  have hsize : Binary64.zero.lt size := h size (by simp [sizes, hsaved])
  simp only [leave, hsaved, set, readRootSize_of_positive hsize]
  rfl

theorem ne_nan_of_positive {size : Binary64} (h : Binary64.zero.lt size) : size ≠ .nan := by
  rintro rfl
  revert h
  decide

end RootSizes

namespace Session

/-- The root font sizes after an action on them; other actions keep them. -/
def Action.resized (a : Action) (roots : RootSizes) : Except RootSizeError RootSizes :=
  match a with
  | .setRoot v => roots.set v
  | .configureRoot v =>
    match UnitSettings.ofEntries [(.text UnitSettings.sizeName, v)] with
    | .ok units => roots.configure units
    | .error _ => .ok roots
  | .enterRoot v => roots.enter v
  | .leaveRoot => roots.leave
  | _ => .ok roots

theorem Action.resizes_of_resized {a : Action} {roots roots' : RootSizes}
    (h : a.resized roots = .ok roots') : roots.Resizes roots' := by
  cases a with
  | setRoot v => exact RootSizes.resizes_set h
  | enterRoot v => exact RootSizes.resizes_enter h
  | leaveRoot => exact RootSizes.resizes_leave h
  | configureRoot v =>
    rw [resized] at h
    cases hunits : UnitSettings.ofEntries [(.text UnitSettings.sizeName, v)] with
    | ok units =>
      rw [hunits] at h
      exact RootSizes.resizes_set h
    | error issues =>
      rw [hunits] at h
      cases h
      exact .refl roots
  | _ =>
    cases h
    exact .refl roots

/-- Sizes are saved and put back only by entering and leaving. -/
theorem Action.saved_of_resized {a : Action} {roots roots' : RootSizes}
    (henter : ∀ v, a ≠ .enterRoot v) (hleave : a ≠ .leaveRoot) (h : a.resized roots = .ok roots') :
    roots'.saved = roots.saved := by
  have hset : ∀ {v}, roots.set v = .ok roots' → roots'.saved = roots.saved := by
    intro v hv
    rw [RootSizes.set] at hv
    cases hread : readRootSize v with
    | error e => simp [hread, Except.map] at hv
    | ok x =>
      rw [hread] at hv
      cases hv
      rfl
  cases a with
  | setRoot v => exact hset h
  | enterRoot v => exact absurd rfl (henter v)
  | leaveRoot => exact absurd rfl hleave
  | configureRoot v =>
    rw [resized] at h
    cases hunits : UnitSettings.ofEntries [(.text UnitSettings.sizeName, v)] with
    | ok units =>
      rw [hunits] at h
      exact hset h
    | error issues =>
      rw [hunits] at h
      cases h
      rfl
  | _ =>
    cases h
    rfl

namespace State

variable {s : State} {actions : List Action}

/-! ### Steps -/

theorem roots_openSubject {subject : Subject} {tree : Nat} {s' : State}
    (h : s.openSubject subject = .ok (tree, s')) : s'.roots = s.roots := by
  cases subject with
  | tree source =>
    obtain rfl : (s.openTree source).2 = s' := congrArg Prod.snd (Except.ok.inj h)
    exact (opens_openTree s source).roots
  | query text =>
    rw [openSubject] at h
    cases hparse : s.library.parse s.library.default text with
    | error e => simp [hparse, Except.map] at h
    | ok result =>
      rw [hparse] at h
      cases h
      rfl

theorem roots_changeRoots (s : State) (roots : Except RootSizeError RootSizes) :
    (s.changeRoots roots).2.roots = roots.toOption.getD s.roots := by
  cases roots <;> rfl

/-- **Every step** changes the root font sizes as its action says, or not at all if that fails. -/
theorem roots_step (s : State) (a : Action) :
    (s.step a).2.roots = (a.resized s.roots).toOption.getD s.roots := by
  cases a with
  | setRoot | enterRoot | leaveRoot => exact roots_changeRoots s _
  | configureRoot v =>
    rw [step, Action.resized]
    cases UnitSettings.ofEntries [(.text UnitSettings.sizeName, v)] with
    | ok units => exact roots_changeRoots s _
    | error issues => rfl
  | parse route query =>
    have hopen := (opens_openRoute s route).roots
    simp only [step]
    split <;> exact hopen
  | lookup cache query =>
    have hopen := (opens_openCache s cache).roots
    simp only [step]
    split <;> exact hopen
  | store cache query source =>
    exact (opens_openTree _ source).roots.trans (opens_openCache s cache).roots
  | contains cache | size cache | describe cache | clear cache =>
    exact (opens_openCache s cache).roots
  | identify route => exact (opens_openRoute s route).roots
  | renewDefault | appendQuery | appendTest | sameTree | getRoot => rfl
  | measure m v =>
    rw [step]
    split <;> rfl
  | matchOnce subject env | makeEvaluator name subject =>
    rw [step]
    cases hopen : s.openSubject subject with
    | ok result =>
      have hroots : result.2.roots = s.roots := roots_openSubject hopen
      exact hroots
    | error e => rfl
  | evaluate name env =>
    rw [step]
    split <;> rfl

theorem resizes_step (s : State) (a : Action) : s.roots.Resizes (s.step a).2.roots := by
  rw [roots_step]
  cases h : a.resized s.roots with
  | ok roots => exact Action.resizes_of_resized h
  | error e => exact .refl s.roots

theorem changeRoots_of_error {roots : Except RootSizeError RootSizes} {failure : Failure}
    (h : (s.changeRoots roots).1 = .error failure) : (s.changeRoots roots).2 = s := by
  cases roots with
  | ok roots => cases h
  | error e => rfl

/-- Entering a context saves the size in force. -/
theorem step_enterRoot {v : Value} {size : Binary64} (h : readRootSize v = .ok size) :
    s.step (.enterRoot v) =
      (.ok (.root size), { s with roots := ⟨size, s.roots.current :: s.roots.saved⟩ }) := by
  rw [step, RootSizes.enter, h]
  rfl

theorem step_enterRoot_of_error {v : Value} {e : RootSizeError} (h : readRootSize v = .error e) :
    s.step (.enterRoot v) = (.error (.rootSize e), s) := by
  rw [step, RootSizes.enter, h]
  rfl

theorem saved_enterRoot {v : Value} {outcome : Outcome}
    (h : (s.step (.enterRoot v)).1 = .ok outcome) :
    (s.step (.enterRoot v)).2.roots.saved = s.roots.current :: s.roots.saved := by
  cases hv : readRootSize v with
  | ok size => rw [step_enterRoot hv]
  | error e =>
    rw [step_enterRoot_of_error hv] at h
    cases h

/-- Leaving a context puts back the size that was saved last. -/
theorem step_leaveRoot (hs : s.roots.Positive) {size : Binary64} {saved : List Binary64}
    (hsaved : s.roots.saved = size :: saved) :
    s.step .leaveRoot = (.ok (.root size), { s with roots := ⟨size, saved⟩ }) := by
  rw [step, hs.leave_eq hsaved]
  rfl

/-! ### Runs -/

/-- **Every run** keeps all root font sizes above zero. -/
theorem positive_run (hs : s.roots.Positive) (actions : List Action) :
    (s.run actions).2.roots.Positive := by
  induction actions generalizing s with
  | nil => exact hs
  | cons a actions ih => exact ih (hs.resizes (resizes_step s a))

/--
Runs that leave each context that they enter and no other one. A context that cannot be entered
is not there to be left.
-/
inductive Balanced : State → List Action → Prop
  | nil {s : State} : Balanced s []
  | step {s : State} {a : Action} {actions : List Action} : a ≠ .leaveRoot →
      (∀ v, a = .enterRoot v → ∃ failure, (s.step a).1 = .error failure) →
      Balanced (s.step a).2 actions → Balanced s (a :: actions)
  | context {s : State} {v : Value} {outcome : Outcome} {inner actions : List Action} :
      (s.step (.enterRoot v)).1 = .ok outcome → Balanced (s.step (.enterRoot v)).2 inner →
      Balanced (((s.step (.enterRoot v)).2.run inner).2.step .leaveRoot).2 actions →
      Balanced s (.enterRoot v :: (inner ++ .leaveRoot :: actions))

theorem saved_step {a : Action} (hleave : a ≠ .leaveRoot)
    (henter : ∀ v, a = .enterRoot v → ∃ failure, (s.step a).1 = .error failure) :
    (s.step a).2.roots.saved = s.roots.saved := by
  by_cases h : ∃ v, a = .enterRoot v
  · obtain ⟨v, rfl⟩ := h
    obtain ⟨failure, hfailure⟩ := henter v rfl
    exact congrArg (·.roots.saved) (changeRoots_of_error hfailure)
  · rw [roots_step]
    cases hr : a.resized s.roots with
    | ok roots => exact Action.saved_of_resized (fun v hv => h ⟨v, hv⟩) hleave hr
    | error e => rfl

/-- A context that is entered and left has put back the size in force. -/
theorem step_leaveRoot_of_entered {v : Value} {outcome : Outcome} {inner : List Action}
    (hs : s.roots.Positive) (hv : (s.step (.enterRoot v)).1 = .ok outcome)
    (hinner : ((s.step (.enterRoot v)).2.run inner).2.roots.saved =
      (s.step (.enterRoot v)).2.roots.saved) :
    let inside := ((s.step (.enterRoot v)).2.run inner).2
    inside.step .leaveRoot = (.ok (.root s.roots.current), { inside with roots := s.roots }) := by
  have hpos := positive_run (hs.resizes (resizes_step s (.enterRoot v))) inner
  exact step_leaveRoot hpos (hinner.trans (saved_enterRoot hv))

/-- **A balanced run keeps the saved sizes.** -/
theorem saved_run_of_balanced (h : s.Balanced actions) (hs : s.roots.Positive) :
    (s.run actions).2.roots.saved = s.roots.saved := by
  induction h with
  | nil => rfl
  | @step s a actions hleave henter _ ih =>
    exact (ih (hs.resizes (resizes_step s a))).trans (saved_step hleave henter)
  | @context s v outcome inner actions hv _ _ ihinner ih =>
    have hinner := ihinner (hs.resizes (resizes_step s (.enterRoot v)))
    have hleft := step_leaveRoot_of_entered hs hv hinner
    have hrun : (s.run (.enterRoot v :: (inner ++ .leaveRoot :: actions))).2 =
        ((((s.step (.enterRoot v)).2.run inner).2.step .leaveRoot).2.run actions).2 :=
      run_append _ inner (.leaveRoot :: actions)
    rw [hrun, ih (by rw [hleft]; exact hs), hleft]

/--
**The root font size of every run.** All sizes in force or saved are above zero and no NaN; setting
or entering that fails changes nothing; leaving never fails, and after whatever happened in a
context puts back the size at the time of entering it; checked settings are never refused.
-/
theorem roots_of_run (actions : List Action) :
    let s := (initial.run actions).2
    (∀ size ∈ s.roots.sizes, Binary64.zero.lt size ∧ size ≠ .nan) ∧
    (∀ v failure, (s.step (.setRoot v)).1 = .error failure → (s.step (.setRoot v)).2 = s) ∧
    (∀ v failure, (s.step (.enterRoot v)).1 = .error failure → (s.step (.enterRoot v)).2 = s) ∧
    (∃ size, (s.step .leaveRoot).1 = .ok (.root size)) ∧
    (∀ v outcome inner, (s.step (.enterRoot v)).1 = .ok outcome →
      (s.step (.enterRoot v)).2.Balanced inner →
      let inside := ((s.step (.enterRoot v)).2.run inner).2
      inside.step .leaveRoot = (.ok (.root s.roots.current), { inside with roots := s.roots })) ∧
    ∀ v units, UnitSettings.ofValue v = .ok units →
      s.roots.configure units = .ok ⟨units.rootFontSize, s.roots.saved⟩ := by
  intro s
  have hs : s.roots.Positive := positive_run sound_initial.roots actions
  refine ⟨fun size hsize => ?_, fun v failure => changeRoots_of_error,
    fun v failure => changeRoots_of_error, ?_, fun v outcome inner hv hinner => ?_,
    fun v units hunits => ?_⟩
  · exact ⟨hs size hsize, RootSizes.ne_nan_of_positive (hs size hsize)⟩
  · cases hsaved : s.roots.saved with
    | nil => exact ⟨s.roots.current, by simp only [step, RootSizes.leave, hsaved]; rfl⟩
    | cons size saved => exact ⟨size, by rw [step_leaveRoot hs hsaved]⟩
  · have hentered := hs.resizes (resizes_step s (.enterRoot v))
    exact step_leaveRoot_of_entered hs hv (saved_run_of_balanced hinner hentered)
  · exact s.roots.configure_of_positive (UnitSettings.positive_of_ofValue hunits)

/-- A context with two sizes that are refused, a context of its own and a size left set. -/
theorem roots_of_run_refused :
    let s := (initial.run [.configureRoot (.int 12)]).2
    let inner : List Action :=
      [.setRoot (.float .nan), .enterRoot (.int 0), .enterRoot (.int 20), .leaveRoot,
        .setRoot (.int 30)]
    (s.step (.setRoot (.float .nan))).2 = s ∧ (s.step (.enterRoot (.int 0))).2 = s ∧
    (s.step (.enterRoot (.int 10))).2.Balanced inner ∧ s.roots.current = Measure.ofNat 12 ∧
    (((s.step (.enterRoot (.int 10))).2.run inner).2.step .leaveRoot).1 =
      .ok (.root s.roots.current) := by
  have hnan : readRootSize (.float .nan) = .error (.notPositive .nan) := by decide +kernel
  have hzero : readRootSize (.int 0) = .error (.notPositive .zero) := by decide +kernel
  have hten : readRootSize (.int 10) = .ok (Measure.ofNat 10) := by decide +kernel
  have htwenty : readRootSize (.int 20) = .ok (Measure.ofNat 20) := by decide +kernel
  have hcurrent : (initial.run [.configureRoot (.int 12)]).2.roots.current = Measure.ofNat 12 := by
    decide +kernel
  obtain ⟨-, hrefuse, hrefuse', -, hcontext, -⟩ := roots_of_run [.configureRoot (.int 12)]
  -- what the session did before does not matter from here on
  generalize (initial.run [.configureRoot (.int 12)]).2 = s at *
  have hset : (s.step (.setRoot (.float .nan))).1 = .error (.rootSize (.notPositive .nan)) := by
    rw [step, RootSizes.set, hnan]
    rfl
  have henter := congrArg Prod.fst (step_enterRoot_of_error (s := s) hzero)
  have hentered := congrArg Prod.fst (step_enterRoot (s := s) hten)
  intro s' inner
  have hinner : (s.step (.enterRoot (.int 10))).2.Balanced inner := by
    refine .step (by simp) (by simp) (.step (by simp) (fun v hv => ?_) ?_)
    · cases hv
      exact ⟨_, congrArg Prod.fst (step_enterRoot_of_error hzero)⟩
    · exact .context (congrArg Prod.fst (step_enterRoot htwenty)) .nil
        (.step (by simp) (by simp) .nil)
  exact ⟨hrefuse _ _ hset, hrefuse' _ _ henter, hinner, hcurrent,
    congrArg Prod.fst (hcontext (.int 10) _ inner hentered hinner)⟩

end State

end Session

end MediaQuery
