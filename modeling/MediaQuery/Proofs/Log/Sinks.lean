import MediaQuery.Log.State
import Mathlib.Data.List.Nodup

/-!
# Where records go

A configuration decides by its level which events are recorded and by its sinks where. `InForce`
says that the handlers of a state are those of a configuration: `configure` brings this about in
every state, whatever handlers were there before, and making and using loggers leaves it so. Under a
configuration in force each logger, with whatever renderer it keeps, writes the record of an event
once to each sink of the configuration if the event has its level, and nothing otherwise.

* `InForce.emit_of_le` and `InForce.emit_of_lt` say what is written of an event;
* `InForce.parsed_debug` and `InForce.parsed_of_ne` say what is written of a parse.
-/

namespace MediaQuery.Log

variable {c : Config} {s : State} {l : Logger} {level : Level} {text : String} {args : List Value}
  {fields : List (String × Value)} {written : List Delivery}

/-! ### What is written to a sink -/

/-- The records that were written to a sink. -/
def recordsTo (sink : Sink) (written : List Delivery) : List Record :=
  (written.filter fun d => d.sink = sink).map Delivery.record

/-- A record was written exactly once to each of some sinks, and nothing else was written. -/
def WrittenOnce (record : Record) (sinks : List Sink) (written : List Delivery) : Prop :=
  ∀ sink, recordsTo sink written = if sink ∈ sinks then [record] else []

/-- The sinks of a configuration. -/
def Config.sinks (c : Config) : List Sink := .standardError :: (c.file.map Sink.file).toList

/-- The handlers of a configuration. -/
def Config.handlers (c : Config) : List Handler :=
  ⟨.standardError, none⟩ :: (c.file.map fun path => ⟨.file path, some c.level⟩).toList

theorem writtenOnce_map {sinks : List Sink} (h : sinks.Nodup) (record : Record) :
    WrittenOnce record sinks (sinks.map fun sink => ⟨sink, record⟩) := by
  intro sink
  have hrecords : recordsTo sink (sinks.map fun sink => ⟨sink, record⟩) =
      (sinks.filter fun other => other = sink).map fun _ => record := by
    rw [recordsTo, List.filter_map, List.map_map]
    rfl
  rw [hrecords, List.filter_eq, List.map_replicate, h.count]
  split_ifs <;> rfl

theorem Config.nodup_sinks (c : Config) : c.sinks.Nodup := by
  rw [Config.sinks]
  cases c.file <;> simp

theorem Config.map_sink_handlers (c : Config) : c.handlers.map Handler.sink = c.sinks := by
  rw [Config.handlers, Config.sinks]
  cases c.file <;> rfl

/-- The handlers of a configuration write what its level lets through. -/
theorem Config.admits_of_mem_handlers (hlevel : c.level.rank ≤ level.rank) :
    ∀ h ∈ c.handlers, h.admits level := by
  intro h hmem
  rw [Config.handlers] at hmem
  cases hfile : c.file with
  | none =>
    simp only [hfile, Option.map_none, Option.toList_none, List.mem_singleton] at hmem
    rw [hmem]
    rfl
  | some path =>
    simp only [hfile, Option.map_some, Option.toList_some, List.mem_cons, List.not_mem_nil,
      or_false] at hmem
    rcases hmem with rfl | rfl
    · rfl
    · simpa [Handler.admits] using hlevel

/-- A renderer that is kept for good is a configured one. -/
theorem Renderer.exists_of_lasting? {r r' : Renderer} (h : r.lasting? = some r') :
    ∃ format, r' = .configured format := by
  cases r with
  | plain => cases h
  | configured format =>
    cases h
    exact ⟨format, rfl⟩

/-! ### Configurations in force -/

namespace State

/-- The handlers, the level and the renderer for new loggers are those of a configuration. -/
structure InForce (s : State) (c : Config) : Prop where
  handlers : s.handlers = c.handlers
  level : s.level = c.level
  renderer : s.renderer = .configured c.format

/-- **A configuration is in force once it is given**, whatever was in force before. -/
theorem inForce_configure (s : State) (c : Config) : (s.configure c).InForce c := by
  rw [configure]
  cases hfile : c.file with
  | none => exact ⟨by simp [reset, Config.handlers, hfile], rfl, rfl⟩
  | some path => exact ⟨by simp [addFile, reset, Config.handlers, hfile], rfl, rfl⟩

namespace InForce

theorem addLogger (h : s.InForce c) (l : Logger) : (s.addLogger l).2.InForce c :=
  ⟨h.handlers, h.level, h.renderer⟩

theorem useLogger (h : s.InForce c) (n : Nat) : (s.useLogger n).InForce c :=
  ⟨h.handlers, h.level, h.renderer⟩

theorem bindLogger (h : s.InForce c) (n : Nat) (fields : List (String × Value)) :
    (s.bindLogger n fields).2.InForce c :=
  (h.useLogger n).addLogger _

theorem enabled_iff (h : s.InForce c) : s.enabled level = true ↔ c.level.rank ≤ level.rank := by
  rw [enabled, h.level, decide_eq_true_eq]

/-- A record of a level that is recorded goes to each sink. -/
theorem deliver_of_le (h : s.InForce c) (hlevel : c.level.rank ≤ level.rank) (record : Record) :
    s.deliver level record = c.sinks.map fun sink => ⟨sink, record⟩ := by
  have hreceivers : s.receivers level = c.handlers := by
    rw [receivers, h.handlers]
    exact List.filter_eq_self.2 (Config.admits_of_mem_handlers hlevel)
  rw [deliver, if_pos (h.enabled_iff.2 hlevel), hreceivers, ← c.map_sink_handlers, List.map_map]
  rfl

theorem deliver_of_lt (h : s.InForce c) (hlevel : level.rank < c.level.rank) (record : Record) :
    s.deliver level record = [] := by
  rw [deliver, if_neg]
  rw [h.enabled_iff]
  exact Nat.not_le.2 hlevel

/-! ### Events -/

/-- **An event of the level** is written to each sink as its logger renders it, or fails if it
cannot be rendered. -/
theorem emit_of_le (h : s.InForce c) (hlevel : c.level.rank ≤ level.rank) :
    s.emit l level text args fields =
      (s.render l level text args fields).map fun record =>
        c.sinks.map fun sink => ⟨sink, record⟩ := by
  have hdeliver : s.deliver level = fun record => c.sinks.map fun sink => ⟨sink, record⟩ :=
    funext fun record => h.deliver_of_le hlevel record
  rw [emit, h.enabled_iff.2 hlevel, hdeliver]
  simp only [Bool.not_true, Bool.and_false, Bool.false_eq_true, if_false]

/-- **An event below the level** is not written. -/
theorem emit_of_lt (h : s.InForce c) (hlevel : level.rank < c.level.rank)
    (hwritten : s.emit l level text args fields = .ok written) : written = [] := by
  rw [emit] at hwritten
  split_ifs at hwritten
  · cases hwritten
    rfl
  · -- a logger without a filter makes the record before the level is asked for
    cases hrecord : s.render l level text args fields with
    | error e =>
      rw [hrecord] at hwritten
      cases hwritten
    | ok record =>
      rw [hrecord] at hwritten
      cases hwritten
      exact h.deliver_of_lt hlevel record

end InForce

/-- An event without arguments can be rendered. -/
theorem exists_render (s : State) (l : Logger) (level : Level) (text : String)
    (fields : List (String × Value)) : ∃ record, s.render l level text [] fields = .ok record := by
  rw [render]
  cases s.rendererOf l <;> exact ⟨_, rfl⟩

/-- A call without arguments does not fail. -/
theorem exists_emit (s : State) (l : Logger) (level : Level) (text : String)
    (fields : List (String × Value)) : ∃ written, s.emit l level text [] fields = .ok written := by
  obtain ⟨record, hrecord⟩ := s.exists_render l level text fields
  rw [emit, hrecord]
  split_ifs <;> exact ⟨_, rfl⟩

/-! ### Loggers -/

/-- What a logger keeps when it is used is the renderer that it has. -/
theorem getD_or_lasting? (kept : Option Renderer) (r : Renderer) :
    (kept.or r.lasting?).getD r = kept.getD r := by
  cases kept <;> cases r <;> rfl

/-- **Using a logger does not change how it renders.** -/
theorem render_useLogger (s : State) (n : Nat) :
    (s.useLogger n).render ((s.useLogger n).logger n) = s.render (s.logger n) := by
  funext level text args fields
  simp only [render, rendererOf, logger, useLogger, List.getD_eq_getElem?_getD,
    List.getElem?_modify_eq]
  cases s.loggers[n]? with
  | none => rfl
  | some l =>
    simp only [Option.map_eq_map, Option.map_some, Option.getD_some, getD_or_lasting?]
    rfl

/-! ### The parser -/

/-- What the parser logs of a query list of some nodes that it parsed. -/
def parsedEvent (query : String) (nodes : Nat) : Event where
  level := .debug
  text := "Parsed media query"
  logger := some "mediamatch.matcher.parser"
  fields := .ofPairs [("query", .ofString query), ("nodes", .int nodes)]

/-- What is kept when the logger of the parser is used is kept by a parse. -/
theorem parsed_induction {P : State → Prop} (huse : ∀ s, P s → P (s.useLogger parserNumber))
    (h : P s) (query : String) (nodes : Nat) : P (s.parsed query nodes).2 := by
  rw [parsed]
  split_ifs
  · exact huse _ (huse s h)
  · exact huse s h

/-- The logger of the parser is there, without fields, and the renderer that it keeps, if any, is a
configured one. -/
def HasParser (s : State) : Prop :=
  ∃ kept, s.loggers[parserNumber]? = some { parserLogger with kept := kept } ∧
    ∀ r, kept = some r → ∃ format, r = .configured format

theorem hasParser_initial : initial.HasParser := ⟨none, rfl, nofun⟩

namespace HasParser

theorem configure (h : s.HasParser) (c : Config) : (s.configure c).HasParser := by
  rw [State.configure]
  cases c.file <;> exact h

theorem addLogger (h : s.HasParser) (l : Logger) : (s.addLogger l).2.HasParser := by
  obtain ⟨kept, hget, hkept⟩ := h
  have hlt : parserNumber < s.loggers.length := (List.getElem?_eq_some_iff.1 hget).1
  exact ⟨kept, by rw [State.addLogger, List.getElem?_append_left hlt, hget], hkept⟩

theorem useLogger (h : s.HasParser) (n : Nat) : (s.useLogger n).HasParser := by
  obtain ⟨kept, hget, hkept⟩ := h
  rw [HasParser, State.useLogger, List.getElem?_modify, hget]
  by_cases hn : n = parserNumber
  · refine ⟨kept.or s.renderer.lasting?, by simp [hn], fun r hr => ?_⟩
    cases kept with
    | some r' => exact hkept r hr
    | none => exact Renderer.exists_of_lasting? hr
  · exact ⟨kept, by simp [hn], hkept⟩

theorem bindLogger (h : s.HasParser) (n : Nat) (fields : List (String × Value)) :
    (s.bindLogger n fields).2.HasParser :=
  (h.useLogger n).addLogger _

theorem parsed (h : s.HasParser) (query : String) (nodes : Nat) :
    (s.parsed query nodes).2.HasParser :=
  parsed_induction (P := HasParser) (fun _ hs => hs.useLogger _) h query nodes

/-- Under a configuration the parser renders its events in the format of one. -/
theorem exists_render (h : s.HasParser) (hforce : s.InForce c) (query : String) (nodes : Nat) :
    ∃ format, s.render (s.logger parserNumber) .debug parsedText [] (parsedFields query nodes) =
      .ok ((parsedEvent query nodes).record format) := by
  obtain ⟨kept, hget, hkept⟩ := h
  have hlogger : s.logger parserNumber = { parserLogger with kept := kept } := by
    rw [logger, List.getD_eq_getElem?_getD, hget, Option.getD_some]
  have hrenderer : ∃ format, kept.getD s.renderer = .configured format := by
    cases kept with
    | none => exact ⟨c.format, hforce.renderer⟩
    | some r => exact hkept r rfl
  obtain ⟨format, hformat⟩ := hrenderer
  refine ⟨format, ?_⟩
  rw [hlogger, render, rendererOf, hformat]
  rfl

end HasParser

namespace InForce

theorem parsed (h : s.InForce c) (query : String) (nodes : Nat) :
    (s.parsed query nodes).2.InForce c :=
  parsed_induction (P := fun s => s.InForce c) (fun _ hs => hs.useLogger _) h query nodes

/-- **A parse is logged on the level of debugging**, with the number of its nodes. -/
theorem parsed_debug (h : s.InForce c) (hparser : s.HasParser) (hc : c.level = .debug)
    (query : String) (nodes : Nat) :
    ∃ format, WrittenOnce ((parsedEvent query nodes).record format) c.sinks
      (s.parsed query nodes).1 := by
  have hlevel : c.level.rank ≤ Level.debug.rank := Nat.le_of_eq (congrArg Level.rank hc)
  let used := (s.useLogger parserNumber).useLogger parserNumber
  have hused : used.InForce c := (h.useLogger _).useLogger _
  have hparser : used.HasParser := (hparser.useLogger _).useLogger _
  obtain ⟨format, hrender⟩ := hparser.exists_render hused query nodes
  have hwritten : (s.parsed query nodes).1 =
      c.sinks.map fun sink => ⟨sink, (parsedEvent query nodes).record format⟩ := by
    rw [State.parsed, if_pos ((h.useLogger _).enabled_iff.2 hlevel), logBy]
    change (used.emit _ _ _ _ _).toOption.getD [] = _
    rw [hused.emit_of_le hlevel, hrender]
    rfl
  rw [hwritten]
  exact ⟨format, writtenOnce_map c.nodup_sinks _⟩

/-- A parse is logged on no other level. -/
theorem parsed_of_ne (h : s.InForce c) (hc : c.level ≠ .debug) (query : String) (nodes : Nat) :
    (s.parsed query nodes).1 = [] := by
  rw [State.parsed, if_neg]
  rw [(h.useLogger _).enabled_iff]
  revert hc
  cases c.level <;> decide

end InForce

end State

end MediaQuery.Log
