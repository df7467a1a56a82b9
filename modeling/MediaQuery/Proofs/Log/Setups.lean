import MediaQuery.Proofs.Command.Runs
import MediaQuery.Proofs.Log.Sinks

/-!
# Setting logging up again and again

A run in which logging is set up time after time, loggers are made and used, and query lists are
parsed. Three parts of the state change independently of each other: the handlers with their levels,
the renderers that loggers keep, and the default cache. The latest setup alone says where records go
(`latestConfig?`), however old the loggers are and whatever was set up before:
`written_to_latest_sinks`.

* `Application.act` is what an action does;
* `Follows` is what a process has of the actions before: each action keeps it (`Follows.act`), and
  so do all actions together (`follows_afterActions`).
-/

namespace MediaQuery.Application

open Log

/--
What can be done with the log of a process and with its parser: set up logging, with the
configuration of the settings if none is given; make a logger, or one of another one with fields for
all its events; log an event; parse a query list through the default cache.
-/
inductive Action where
  | setup (config : Option Config) (around : Surroundings) (read : Yaml.Reader)
  | getLogger (name : Option String)
  | bindLogger (n : Nat) (fields : List (String × Value))
  | log (n : Nat) (level : Level) (text : String) (args : List Value)
      (fields : List (String × Value))
  | parse (query : String)

/-- Whether an action succeeds, what is written of it, and the state after it. -/
def act (app : Application) : Action → Except ApplicationError Unit × List Delivery × Application
  | .setup (some config) _ _ => (.ok (), [], app.setupLogging config)
  | .setup none around read =>
    let (answer, app) := app.setupLoggingFromSettings around read
    (answer.mapError .settings, [], app)
  | .getLogger name => (.ok (), [], { app with log := (app.log.getLogger name).2 })
  | .bindLogger n fields => (.ok (), [], { app with log := (app.log.bindLogger n fields).2 })
  | .log n level text args fields =>
    let (answer, log) := app.log.logBy n level text args fields
    ((answer.map fun _ => ()).mapError .template, answer.toOption.getD [], { app with log := log })
  | .parse query =>
    let (answer, written, app) := app.parse query
    ((answer.map fun _ => ()).mapError .grammar, written, app)

/-- The state after some actions. -/
def afterActions (app : Application) (actions : List Action) : Application :=
  actions.foldl (fun app a => (app.act a).2.2) app

/-! ### The latest setup -/

/--
What setups leave: the settings that were loaded, and the configuration of the latest setup that
succeeded.
-/
structure Setups where
  settings : Option Settings := none
  config : Option Config := none

/-- What setups leave after one more action. -/
def Setups.next (k : Setups) : Action → Setups
  | .setup (some config) _ _ => { k with config := some config }
  | .setup none around read =>
    match k.settings.or (Settings.load around.files around.vars none read).toOption with
    | some s => ⟨some s, some s.logging⟩
    | none => k
  | _ => k

/-- What the setups among some actions leave. -/
def setupsOf (actions : List Action) : Setups := actions.foldl Setups.next {}

/-- The configuration of the latest setup among some actions. -/
def latestConfig? (actions : List Action) : Option Config := (setupsOf actions).config

theorem setupsOf_concat (actions : List Action) (a : Action) :
    setupsOf (actions ++ [a]) = (setupsOf actions).next a := by
  rw [setupsOf, List.foldl_append]
  rfl

theorem afterActions_concat (app : Application) (actions : List Action) (a : Action) :
    app.afterActions (actions ++ [a]) = ((app.afterActions actions).act a).2.2 := by
  rw [afterActions, List.foldl_append]
  rfl

variable {app : Application} {query : String} {qs : QueryList} {before : List Action}
  {config : Config}

/-! ### The default cache -/

/-- A new text is in the cache after it was parsed, besides those that were there. -/
theorem get?_stored (hdefault : app.session.library.default < app.session.library.caches.length)
    (query : String) (qs : QueryList) (query' : String) :
    ((app.stored query qs).cache app.session.library.default).get? query' =
      if query' = query then some app.session.library.trees.length else app.cached? query' := by
  have hadded : app.session.library.default <
      (app.session.library.addTree qs).2.caches.length := hdefault
  rw [stored, Library.store, Library.cache_changeCache hadded, if_pos rfl, Dict.get?_set]
  rfl

/-! ### Runs -/

/-- What a process has of the actions before: the configuration of the latest setup is in force, and
the default cache holds what was parsed. -/
structure Follows (app : Application) (before : List Action) : Prop where
  knows : app.Knows (setupsOf before).settings
  config : ∀ c, latestConfig? before = some c → app.log.InForce c
  parser : app.log.HasParser
  default : app.session.library.default < app.session.library.caches.length
  cached : ∀ query, (app.cached? query).isSome = true ↔
    .parse query ∈ before ∧ ∃ qs, QueryList.parse query = .ok qs

namespace Follows

theorem initial : Application.initial.Follows [] :=
  ⟨.initial, nofun, State.hasParser_initial, by decide, fun _ => iff_of_false nofun nofun⟩

/-- An action other than a parse leaves the caches alone. -/
theorem of_session_eq {app' : Application} {a : Action} (h : app.Follows before)
    (ha : ∀ query, a ≠ .parse query) (hsession : app'.session = app.session)
    (hknows : app'.Knows ((setupsOf before).next a).settings)
    (hconfig : ∀ c, ((setupsOf before).next a).config = some c → app'.log.InForce c)
    (hparser : app'.log.HasParser) : app'.Follows (before ++ [a]) := by
  refine ⟨?_, fun c hc => hconfig c ?_, hparser, hsession ▸ h.default, fun query => ?_⟩
  · rw [setupsOf_concat]
    exact hknows
  · rw [← setupsOf_concat]
    exact hc
  · have hmem : .parse query ∈ before ++ [a] ↔ .parse query ∈ before := by
      simp [(ha query).symm]
    rw [hmem, ← h.cached, cached?, cached?, hsession]

/-- An action on the log alone that changes no handler and no level. -/
theorem withLog {a : Action} {log : Log.State} (h : app.Follows before)
    (ha : ∀ query, a ≠ .parse query) (hnext : (setupsOf before).next a = setupsOf before)
    (hlog : ∀ c, app.log.InForce c → log.InForce c) (hparser : log.HasParser) :
    Follows { app with log := log } (before ++ [a]) := by
  refine h.of_session_eq ha rfl ?_ (fun c hc => hlog c (h.config c ?_)) hparser
  · rw [hnext]
    exact ⟨h.knows.kept, h.knows.positive, h.knows.coherent⟩
  · rw [hnext] at hc
    exact hc

theorem setupLogging (h : app.Follows before) (c : Config) (around : Surroundings)
    (read : Yaml.Reader) :
    (app.setupLogging c).Follows (before ++ [.setup (some c) around read]) := by
  refine h.of_session_eq nofun rfl ?_ ?_ (h.parser.configure c)
  · exact ⟨h.knows.kept, h.knows.positive, h.knows.coherent⟩
  · rintro _ ⟨⟩
    exact app.log.inForce_configure c

theorem setupLoggingFromSettings (h : app.Follows before) (around : Surroundings)
    (read : Yaml.Reader) :
    (app.setupLoggingFromSettings around read).2.Follows (before ++ [.setup none around read]) := by
  rw [Application.setupLoggingFromSettings]
  rcases h.knows.loadSettings around none read with
    ⟨e, hload, hnone, he⟩ | ⟨s, app', hload, hknows, hs⟩
  · have hnext : (setupsOf before).next (.setup none around read) = setupsOf before := by
      rw [Setups.next, hnone, he]
      rfl
    rw [hload]
    exact h.withLog nofun hnext (fun _ => id) h.parser
  · have hnext : (setupsOf before).next (.setup none around read) =
        ⟨some s, some s.logging⟩ := by
      rw [Setups.next, hs]
    -- loading changes nothing but the settings
    have hsession : app.session = app'.session := congrArg (fun result => result.2.session) hload
    have hlog : app.log = app'.log := congrArg (fun result => result.2.log) hload
    rw [hload]
    refine h.of_session_eq nofun hsession.symm ?_ ?_ ?_
    · rw [hnext]
      exact ⟨hknows.kept, hknows.positive, hknows.coherent⟩
    · rw [hnext]
      rintro _ ⟨⟩
      exact app'.log.inForce_configure s.logging
    · have hparser : app'.log.HasParser := hlog ▸ h.parser
      exact hparser.configure s.logging

/-- A text that was parsed before, or that is none, leaves everything as it is. -/
theorem parse_again (h : app.Follows before)
    (hseen : ∀ qs, QueryList.parse query = .ok qs → .parse query ∈ before) :
    app.Follows (before ++ [.parse query]) := by
  refine ⟨?_, fun c hc => h.config c ?_, h.parser, h.default, fun query' => ?_⟩
  · rw [setupsOf_concat]
    exact h.knows
  · rw [latestConfig?, setupsOf_concat] at hc
    exact hc
  · rw [h.cached, List.mem_append, List.mem_singleton]
    refine ⟨fun ⟨hmem, hqs⟩ => ⟨.inl hmem, hqs⟩, ?_⟩
    rintro ⟨hmem | ⟨⟨⟩⟩, qs, hqs⟩
    · exact ⟨hmem, qs, hqs⟩
    · exact ⟨hseen qs hqs, qs, hqs⟩

/-- A new text is stored, and the logger of the parser is used. -/
theorem parse_new (h : app.Follows before) (hcached : app.cached? query = none)
    (hqs : QueryList.parse query = .ok qs) :
    (app.parse query).2.2.Follows (before ++ [.parse query]) := by
  have hknows : (app.parse query).2.2.Knows (setupsOf before).settings := by
    obtain ⟨written, app', hparse, hknows, -⟩ := h.knows.parse query
    rw [hparse]
    exact hknows
  rw [parse_of_new hcached hqs] at hknows ⊢
  refine ⟨?_, fun c hc => (h.config c ?_).parsed query qs.length, h.parser.parsed query qs.length,
    ?_, fun query' => ?_⟩
  · rw [setupsOf_concat]
    exact hknows
  · rw [latestConfig?, setupsOf_concat] at hc
    exact hc
  · change app.session.library.default < (app.session.library.caches.modify _ _).length
    rw [List.length_modify]
    exact h.default
  · rw [List.mem_append, List.mem_singleton]
    change (((app.stored query qs).cache app.session.library.default).get? query').isSome = true ↔ _
    rw [get?_stored h.default]
    by_cases hquery : query' = query
    · subst hquery
      simp [hqs]
    · rw [if_neg hquery, h.cached]
      simp [hquery]

theorem parse (h : app.Follows before) (query : String) :
    (app.parse query).2.2.Follows (before ++ [.parse query]) := by
  cases hcached : app.cached? query with
  | some tree =>
    rw [parse_of_cached h.knows.coherent hcached]
    exact h.parse_again fun _ _ => ((h.cached query).1 (by rw [hcached]; rfl)).1
  | none =>
    cases hqs : QueryList.parse query with
    | error e =>
      rw [parse_of_error hcached hqs]
      exact h.parse_again fun qs hok => by rw [hqs] at hok; cases hok
    | ok qs => exact h.parse_new hcached hqs

/-- **What an action leaves.** -/
theorem act (h : app.Follows before) (a : Action) : (app.act a).2.2.Follows (before ++ [a]) := by
  cases a with
  | setup config around read =>
    cases config with
    | some c => exact h.setupLogging c around read
    | none => exact h.setupLoggingFromSettings around read
  | getLogger name =>
    exact h.withLog nofun rfl (fun _ hc => hc.addLogger _) (h.parser.addLogger _)
  | bindLogger n fields =>
    exact h.withLog nofun rfl (fun _ hc => hc.bindLogger n fields) (h.parser.bindLogger n fields)
  | log n level text args fields =>
    exact h.withLog nofun rfl (fun _ hc => hc.useLogger n) (h.parser.useLogger n)
  | parse query => exact h.parse query

end Follows

/-- **What some actions leave.** -/
theorem follows_afterActions (before : List Action) :
    (initial.afterActions before).Follows before := by
  induction before using List.reverseRecOn with
  | nil => exact .initial
  | append_singleton before a ih =>
    rw [afterActions_concat]
    exact ih.act a

/-! ### What is written -/

/-- An event of the level of a configuration in force. -/
theorem act_log_of_le (h : app.log.InForce config) {n : Nat} {level : Level} {text : String}
    {args : List Value} {fields : List (String × Value)} (hlevel : config.level.rank ≤ level.rank)
    (hok : (app.act (.log n level text args fields)).1 = .ok ()) :
    ∃ record, app.log.render (app.log.logger n) level text args fields = .ok record ∧
      WrittenOnce record config.sinks (app.act (.log n level text args fields)).2.1 := by
  have hemit : (app.log.useLogger n).emit ((app.log.useLogger n).logger n) level text args fields =
      (app.log.render (app.log.logger n) level text args fields).map fun record =>
        config.sinks.map fun sink => ⟨sink, record⟩ := by
    rw [(h.useLogger n).emit_of_le hlevel, State.render_useLogger]
  simp only [act, State.logBy, hemit] at hok ⊢
  cases hrender : app.log.render (app.log.logger n) level text args fields with
  | error e =>
    rw [hrender] at hok
    cases hok
  | ok record => exact ⟨record, rfl, writtenOnce_map config.nodup_sinks record⟩

/-- An event below the level of a configuration in force. -/
theorem act_log_of_lt (h : app.log.InForce config) {n : Nat} {level : Level} {text : String}
    {args : List Value} {fields : List (String × Value)} (hlevel : level.rank < config.level.rank) :
    (app.act (.log n level text args fields)).2.1 = [] := by
  simp only [act, State.logBy]
  cases hemit : (app.log.useLogger n).emit
      ((app.log.useLogger n).logger n) level text args fields with
  | error e => rfl
  | ok written => exact (h.useLogger n).emit_of_lt hlevel hemit

/--
**Each record goes once to each sink of the latest setup.** After any actions, of which one at least
has set logging up, an event from the level of the latest setup on is written as its logger renders
it, once to the standard error, once to the file of the latest setup if it has one, and to no other
sink; an event below that level is not written. A parse gives what its text parses to, and is logged
in the same way, with the number of its nodes, if the level is that of debugging and the text was
not in the cache, which is to say not parsed before.
-/
theorem written_to_latest_sinks (hconfig : latestConfig? before = some config) :
    let app := initial.afterActions before
    (∀ n level text args fields,
      let result := app.act (.log n level text args fields)
      (args = [] → result.1 = .ok ()) ∧
      (config.level.rank ≤ level.rank → result.1 = .ok () →
        ∃ record, app.log.render (app.log.logger n) level text args fields = .ok record ∧
          WrittenOnce record config.sinks result.2.1) ∧
      (level.rank < config.level.rank → result.2.1 = [])) ∧
    ∀ query,
      let result := app.parse query
      result.1 = QueryList.parse query ∧
      ((app.cached? query).isSome = true ↔ .parse query ∈ before ∧ ∃ qs, result.1 = .ok qs) ∧
      (∀ qs, result.1 = .ok qs → app.cached? query = none → config.level = .debug →
        ∃ format, WrittenOnce ((State.parsedEvent query qs.length).record format) config.sinks
          result.2.1) ∧
      ((∃ e, result.1 = .error e) ∨ (app.cached? query).isSome = true ∨ config.level ≠ .debug →
        result.2.1 = []) := by
  intro app
  have hfollows : app.Follows before := follows_afterActions before
  have hforce := hfollows.config config hconfig
  refine ⟨fun n level text args fields => ⟨?_, act_log_of_le hforce, act_log_of_lt hforce⟩,
    fun query => ?_⟩
  · rintro rfl
    obtain ⟨written, hwritten⟩ := State.exists_emit (app.log.useLogger n)
      ((app.log.useLogger n).logger n) level text fields
    simp only [act, State.logBy, hwritten]
    rfl
  · have hcached := hfollows.cached query
    cases htree : app.cached? query with
    | some tree =>
      rw [htree] at hcached
      have hparse : app.parse query = (QueryList.parse query, [], app) :=
        parse_of_cached hfollows.knows.coherent htree
      rw [hparse]
      refine ⟨rfl, hcached, ?_, fun _ => rfl⟩
      rintro qs - ⟨⟩
    | none =>
      rw [htree] at hcached
      cases hqs : QueryList.parse query with
      | error e =>
        rw [hqs] at hcached
        rw [parse_of_error htree hqs]
        refine ⟨rfl, hcached, ?_, fun _ => rfl⟩
        rintro qs ⟨⟩
      | ok qs =>
        rw [hqs] at hcached
        rw [parse_of_new htree hqs]
        refine ⟨rfl, hcached, ?_, ?_⟩
        · rintro _ ⟨⟩ - hlevel
          exact hforce.parsed_debug hfollows.parser hlevel query qs.length
        · rintro (⟨e, ⟨⟩⟩ | ⟨⟨⟩⟩ | hlevel)
          exact hforce.parsed_of_ne hlevel query qs.length

/-- Logging is set up for the third time, by a file, after a logger was made and used and a text was
parsed. -/
theorem written_to_latest_sinks_rotated :
    let before : List Action :=
      [.getLogger (some "app"), .bindLogger 1 [("user", .int 7)],
        .setup (some ⟨.debug, .json, some "old.log"⟩) ⟨[], []⟩ Yaml.read,
        .log 1 .info "start" [] [], .parse "screen",
        .setup (some ⟨.error, .console, some "old.log"⟩) ⟨[], []⟩ Yaml.read,
        .setup none ⟨[("mediamatch.yaml", "logging:\n  level: debug\n  file: new.log\n")], []⟩
          Yaml.read]
    let app := initial.afterActions before
    let tick := (app.act (.log 2 .info "tick" [] [])).2.1
    let parsed := (app.parse "print, tv").2.1
    latestConfig? before = some ⟨.debug, .console, some "new.log"⟩ ∧
      (∃ record, recordsTo .standardError tick = [record] ∧
        recordsTo (.file "new.log") tick = [record] ∧ recordsTo (.file "old.log") tick = []) ∧
      (∃ format, recordsTo (.file "new.log") parsed =
        [(State.parsedEvent "print, tv" 2).record format]) ∧
      (app.parse "screen").2.1 = [] := by
  intro before app tick parsed
  have hconfig : latestConfig? before = some ⟨.debug, .console, some "new.log"⟩ := by
    decide +kernel
  have htv : QueryList.parse "print, tv" = .ok [⟨"print", false, []⟩, ⟨"tv", false, []⟩] := by
    decide +kernel
  have hscreen : QueryList.parse "screen" = .ok [⟨"screen", false, []⟩] := by decide +kernel
  obtain ⟨hlog, hparse⟩ := written_to_latest_sinks hconfig
  obtain ⟨hok, hwritten, -⟩ := hlog 2 .info "tick" [] []
  obtain ⟨record, -, hrecord⟩ := hwritten (by decide) (hok rfl)
  obtain ⟨hresult, hcached, hnew, -⟩ := hparse "print, tv"
  have hnotCached : app.cached? "print, tv" = none := by
    rw [← Option.not_isSome_iff_eq_none, hcached]
    simp [before]
  obtain ⟨format, hformat⟩ := hnew _ (hresult.trans htv) hnotCached rfl
  obtain ⟨hresult', hcached', -, hsilent⟩ := hparse "screen"
  have hagain := hcached'.2 ⟨by simp [before], _, hresult'.trans hscreen⟩
  exact ⟨hconfig, ⟨record, hrecord _, hrecord _, hrecord _⟩, ⟨format, hformat _⟩,
    hsilent (.inr (.inl hagain))⟩

end MediaQuery.Application
