import MediaQuery.Command.Run
import MediaQuery.Proofs.Session.Effect
import MediaQuery.Proofs.Session.Step
import MediaQuery.Proofs.Settings.Loading
import Mathlib.Data.List.Induction

/-!
# Runs of one process

The settings of a process are those of the first run that loads some, whatever files, variables and
configuration paths later runs name (`firstSettings?`). Nothing is assumed of what reads the files.
Settings and coherent caches are all that a process knows of its past: each run keeps this
(`Knows.invoke`), and so do all runs together (`knows_afterRuns`).

* `Application.Knows` is what a process knows;
* `Knows.prepare` is the state in which a command works: the settings with their root font size;
* `Knows.parse` is what a parse gives and leaves behind.
-/

namespace MediaQuery

open Command

/-- What one run finds around it, what reads the files for it, and its arguments. -/
structure Invocation where
  around : Surroundings
  read : Yaml.Reader
  args : List String

/-- The settings that a run would load, if it loads any. -/
def Invocation.loads? (run : Invocation) : Option Settings :=
  ((readRequest run.args).bind Request.config?).bind fun config =>
    (Settings.load run.around.files run.around.vars (some config) run.read).toOption

/-- The settings of the first run that loads some. -/
def firstSettings? (runs : List Invocation) : Option Settings := runs.findSome? Invocation.loads?

theorem firstSettings?_append (runs : List Invocation) (run : Invocation) :
    firstSettings? (runs ++ [run]) = (firstSettings? runs).or run.loads? := by
  rw [firstSettings?, List.findSome?_append, List.findSome?_singleton]
  rfl

namespace Application

variable {app : Application} {known : Option Settings} {s : Settings} {query : String} {tree : Nat}
  {qs : QueryList} {e : SyntaxError}

/-- The result of a run, and the state after it. -/
def invoke (app : Application) (run : Invocation) : RunResult × Application :=
  app.run run.around run.args run.read

/-- The state after some runs. -/
def afterRuns (app : Application) (runs : List Invocation) : Application :=
  runs.foldl (fun app run => (app.invoke run).2) app

/-! ### Parsing through the default cache -/

theorem parse_of_cached (h : app.session.library.Coherent)
    (hcached : app.cached? query = some tree) :
    app.parse query = (QueryList.parse query, [], app) := by
  have hparse := (Library.parse_of_get?_eq_some hcached).1
  rw [(h.holds_of_get? hcached).parse, parse, hparse]
  simp only [hcached, Option.isSome_some, if_true]
  rfl

theorem parse_of_error (hcached : app.cached? query = none)
    (he : QueryList.parse query = .error e) : app.parse query = (.error e, [], app) := by
  rw [parse, (Library.parse_of_parse_eq_error hcached he).1]

/-- The library after a parse of a new text. -/
def stored (app : Application) (query : String) (qs : QueryList) : Library :=
  let lib := app.session.library
  (lib.addTree qs).2.store lib.default query lib.trees.length

theorem parse_of_new (hcached : app.cached? query = none)
    (hqs : QueryList.parse query = .ok qs) :
    app.parse query = (.ok qs, (app.log.parsed query qs.length).1,
      { app with
        session := app.session.withLibrary (app.stored query qs)
        log := (app.log.parsed query qs.length).2 }) := by
  have htree : (app.stored query qs).tree app.session.library.trees.length = qs := by
    simp [stored, Library.tree, Library.store, Library.changeCache, Library.addTree]
  rw [parse, (Library.parse_of_parse_eq_ok hcached hqs).1]
  simp only [hcached, Option.isSome_none, Bool.false_eq_true, if_false]
  rw [stored] at htree
  simp only [htree]
  rfl

/-! ### What a process knows -/

/-- What a process knows: settings that were loaded, and caches that hold what texts parse to. -/
structure Knows (app : Application) (known : Option Settings) : Prop where
  kept : app.settings.kept.map (·.2) = known
  positive : ∀ s, known = some s → Binary64.zero.lt s.units.rootFontSize
  coherent : app.session.library.Coherent

namespace Knows

theorem initial : Application.initial.Knows none :=
  ⟨rfl, fun _ h => absurd h.symm (Option.some_ne_none _), Library.coherent_initial⟩

/-- Loading gives the settings that are known, or else those of the files. -/
theorem loadSettings (h : app.Knows known) (around : Surroundings) (path : Option String)
    (read : Yaml.Reader) :
    (∃ e, app.loadSettings around path read = (.error e, app) ∧ known = none ∧
      Settings.load around.files around.vars path read = .error e) ∨
    ∃ s app', app.loadSettings around path read = (.ok s, app') ∧ app'.Knows (some s) ∧
      known.or (Settings.load around.files around.vars path read).toOption = some s := by
  simp only [Application.loadSettings, SettingsHolder.get]
  cases hkept : app.settings.kept with
  | some kept =>
    have hknown : known = some kept.2 := by rw [← h.kept, hkept, Option.map_some]
    subst hknown
    exact .inr ⟨kept.2, app, rfl, h, rfl⟩
  | none =>
    have hknown : known = none := by rw [← h.kept, hkept, Option.map_none]
    subst hknown
    cases hload : Settings.load around.files around.vars path read with
    | error e => exact .inl ⟨e, rfl, rfl, rfl⟩
    | ok s =>
      refine .inr ⟨s, _, rfl, ⟨rfl, ?_, h.coherent⟩, rfl⟩
      rintro _ ⟨⟩
      exact Settings.positive_of_load hload

/-- **Before a command** the settings are loaded or fail to be, and their root font size is set. -/
theorem prepare (h : app.Knows known) (around : Surroundings) (config : String)
    (read : Yaml.Reader) :
    (∃ e, app.prepare around config read = (.error (.settings e), app) ∧ known = none ∧
      Settings.load around.files around.vars (some config) read = .error e) ∨
    ∃ s app', app.prepare around config read = (.ok s, app') ∧ app'.Knows (some s) ∧
      app'.session.roots.current = s.units.rootFontSize ∧
      known.or (Settings.load around.files around.vars (some config) read).toOption = some s := by
  rcases h.loadSettings around (some config) read with
    ⟨e, hload, hnone⟩ | ⟨s, app', hload, hknows, hs⟩
  · exact .inl ⟨e, by rw [Application.prepare, hload], hnone⟩
  · have hroots := RootSizes.configure_of_positive (app'.setupLogging s.logging).session.roots
      (hknows.positive s rfl)
    refine .inr ⟨s, _, by simp only [Application.prepare, hload, hroots]; rfl, ?_, rfl, hs⟩
    exact ⟨hknows.kept, hknows.positive, hknows.coherent⟩

/-- **A parse** gives what the text parses to, and leaves the root font size alone. -/
theorem parse (h : app.Knows known) (query : String) :
    ∃ records app', app.parse query = (QueryList.parse query, records, app') ∧
      app'.Knows known ∧ app'.session.roots = app.session.roots := by
  cases hcached : app.cached? query with
  | some tree => exact ⟨[], app, parse_of_cached h.coherent hcached, h, rfl⟩
  | none =>
    cases hqs : QueryList.parse query with
    | error e => exact ⟨[], app, parse_of_error hcached hqs, h, rfl⟩
    | ok qs =>
      have hparse := (Library.parse_of_parse_eq_ok hcached hqs).1
      have hgrows := (h.coherent.parse_spec hparse).1
      exact ⟨_, _, parse_of_new hcached hqs,
        ⟨h.kept, h.positive, hgrows.coherent h.coherent⟩, rfl⟩

/-! ### Runs -/

theorem runCheck (h : app.Knows known) (s : Settings) (query : String) (name : Option String)
    (assignments : List String) : (app.runCheck s query name assignments).2.Knows known := by
  obtain ⟨records, app', hparse, hknows, -⟩ := h.parse query
  unfold Application.runCheck
  split
  · exact h
  · split
    · exact h
    · rw [hparse]
      cases QueryList.parse query <;> exact hknows

theorem runParse (h : app.Knows known) (query : String) (json : Bool) :
    (app.runParse query json).2.Knows known := by
  obtain ⟨records, app', hparse, hknows, -⟩ := h.parse query
  rw [Application.runParse, hparse]
  cases QueryList.parse query <;> exact hknows

/-- A command under settings leaves a process that knows them. -/
theorem runPrepared {command : Settings → Application → RunResult × Application}
    (hcommand : ∀ s app, app.Knows (some s) → (command s app).2.Knows (some s))
    (h : app.Knows known) (around : Surroundings) (config : String) (read : Yaml.Reader) :
    (app.runPrepared around config read command).2.Knows
      (known.or (Settings.load around.files around.vars (some config) read).toOption) := by
  rw [Application.runPrepared]
  rcases h.prepare around config read with
    ⟨e, hprepare, rfl, hload⟩ | ⟨s, app', hprepare, hknows, -, hs⟩
  · rw [hprepare, hload]
    exact h
  · rw [hprepare, hs]
    exact hcommand s app' hknows

/-- **What a run leaves**: a process that knows settings knows them still, and one that does not
knows those that the run loads. -/
theorem invoke (h : app.Knows known) (run : Invocation) :
    (app.invoke run).2.Knows (known.or run.loads?) := by
  rw [Application.invoke, Application.run, Invocation.loads?]
  cases hrequest : readRequest run.args with
  | none => simpa using h
  | some request =>
    cases request with
    | version | help => simpa [Request.config?] using h
    | parse query json config =>
      exact h.runPrepared (fun s app hs => hs.runParse query json) _ _ _
    | check query env assignments config =>
      exact h.runPrepared (fun s app hs => hs.runCheck s query env assignments) _ _ _
    | envs config => exact h.runPrepared (fun s app hs => hs) _ _ _

end Knows

/-- **What a process knows after some runs**: the settings of the first one that loads any. -/
theorem knows_afterRuns (runs : List Invocation) :
    (initial.afterRuns runs).Knows (firstSettings? runs) := by
  induction runs using List.reverseRecOn with
  | nil => exact .initial
  | append_singleton runs run ih =>
    have hafter : initial.afterRuns (runs ++ [run]) =
        ((initial.afterRuns runs).invoke run).2 := by
      rw [afterRuns, List.foldl_append]
      rfl
    rw [hafter, firstSettings?_append]
    exact ih.invoke run

end Application

end MediaQuery
