import MediaQuery.Log.Logger

/-!
# Logging

What happens to events. One level decides which of them are recorded, and records go to handlers,
each of which writes to one sink. Until logging is configured there are no handlers, and records
from the level of warnings on go to the standard error. A configuration removes all handlers and
adds its own: one for the standard error, and one for its file if it has any. Loggers live on and
keep their renderers.

* `State.configure` puts a configuration in force;
* `State.getLogger` and `State.bindLogger` make loggers, `State.logBy` logs with one of them;
* `State.log` is what a new logger records, `State.parsed` what the parser records.
-/

namespace MediaQuery.Log

/-- Where records go. -/
inductive Sink where
  | standardError
  | file (path : String)
  deriving DecidableEq, Repr

/-- A record that was written to a sink. -/
structure Delivery where
  sink : Sink
  record : Record
  deriving Repr

/-- What writes records to a sink, from its least level on if it has one. -/
structure Handler where
  sink : Sink
  level : Option Level
  deriving DecidableEq, Repr

/-- Whether a handler writes records of a level. -/
def Handler.admits (h : Handler) (level : Level) : Bool :=
  h.level.all fun least => least.rank ≤ level.rank

/-- The handler that is there as long as there is no other. -/
def Handler.lastResort : Handler := ⟨.standardError, some .warning⟩

/--
The state of logging: the handlers, the least level that is recorded, the renderer of loggers that
keep none, the loggers by number, and the files that were opened.
-/
structure State where
  handlers : List Handler
  level : Level
  renderer : Renderer
  loggers : List Logger
  opened : List String
  deriving Repr

namespace State

/-- The logger of the parser, which is there from the start. -/
def parserLogger : Logger := .ofName (some "mediamatch.matcher.parser")

/-- The number of the logger of the parser. -/
def parserNumber : Nat := 0

/-- The state before logging is configured. -/
def initial : State := ⟨[], .warning, .plain, [parserLogger], []⟩

/-- Whether events of a level are recorded. -/
def enabled (s : State) (level : Level) : Bool := s.level.rank ≤ level.rank

/-! ### Configuring -/

/-- The state with a level and no handlers but a new one for the standard error. -/
def reset (s : State) (level : Level) : State :=
  { s with handlers := [⟨.standardError, none⟩], level := level }

/-- The state with one more handler, for a file, which exists from then on. -/
def addFile (s : State) (path : String) (level : Level) : State :=
  { s with
    handlers := s.handlers ++ [⟨.file path, some level⟩]
    opened := s.opened ++ [path] }

/-- The state with a configuration in force. -/
def configure (s : State) (config : Config) : State :=
  let s := { s.reset config.level with renderer := .configured config.format }
  match config.file with
  | some path => s.addFile path config.level
  | none => s

/-! ### Records -/

/-- The handlers that write records of a level. -/
def receivers (s : State) (level : Level) : List Handler :=
  (if s.handlers.isEmpty then [.lastResort] else s.handlers).filter fun h => h.admits level

/-- What is written of a record. -/
def deliver (s : State) (level : Level) (record : Record) : List Delivery :=
  if s.enabled level then (s.receivers level).map fun h => ⟨h.sink, record⟩ else []

/-- The renderer that a logger has at present. -/
def rendererOf (s : State) (l : Logger) : Renderer := l.kept.getD s.renderer

/-- The record that a logger makes of an event. -/
def render (s : State) (l : Logger) (level : Level) (text : String) (args : List Value)
    (fields : List (String × Value)) : Except TemplateError Record :=
  (s.rendererOf l).record l.name level text args (l.fieldsWith fields)

/-- What is written of an event. -/
def emit (s : State) (l : Logger) (level : Level) (text : String) (args : List Value)
    (fields : List (String × Value)) : Except TemplateError (List Delivery) :=
  if (s.rendererOf l).filters && !s.enabled level then .ok []
  else (s.render l level text args fields).map (s.deliver level)

/-! ### Loggers -/

/-- The logger of a number. -/
def logger (s : State) (n : Nat) : Logger := s.loggers.getD n (.ofName none)

/-- The state with one more logger, and the number of that logger. -/
def addLogger (s : State) (l : Logger) : Nat × State :=
  (s.loggers.length, { s with loggers := s.loggers ++ [l] })

/-- A new logger of a name. -/
def getLogger (s : State) (name : Option String) : Nat × State := s.addLogger (.ofName name)

/-- The state after a logger was used. -/
def useLogger (s : State) (n : Nat) : State :=
  { s with
    loggers := s.loggers.modify n fun l => { l with kept := l.kept.or s.renderer.lasting? } }

/-- A new logger with fields over those of another one, whose renderer it keeps in any case. -/
def bindLogger (s : State) (n : Nat) (fields : List (String × Value)) : Nat × State :=
  let s := s.useLogger n
  let l := s.logger n
  s.addLogger ⟨l.name, some (s.rendererOf l), l.fieldsWith fields⟩

/-- What is written of an event of a logger, and the state after that. -/
def logBy (s : State) (n : Nat) (level : Level) (text : String) (args : List Value)
    (fields : List (String × Value)) : Except TemplateError (List Delivery) × State :=
  let s := s.useLogger n
  (s.emit (s.logger n) level text args fields, s)

/-- What is written of an event of a new logger. -/
def log (s : State) (logger : Option String) (level : Level) (text : String) (args : List Value)
    (fields : List (String × Value)) : Except TemplateError (List Delivery) :=
  let (n, s) := s.getLogger logger
  (s.logBy n level text args fields).1

/-! ### The parser -/

/-- What the parser says of a query list that it parsed. -/
def parsedText : String := "Parsed media query"

/-- What the parser tells of a query list that it parsed. -/
def parsedFields (query : String) (nodes : Nat) : List (String × Value) :=
  [("query", .ofString query), ("nodes", .int nodes)]

/-- What the parser records of a query list that it parsed, and the state after that. -/
def parsed (s : State) (query : String) (nodes : Nat) : List Delivery × State :=
  -- asking for the level is a use of the logger already
  let s := s.useLogger parserNumber
  if s.enabled .debug then
    let (answer, s) := s.logBy parserNumber .debug parsedText [] (parsedFields query nodes)
    (answer.toOption.getD [], s)
  else ([], s)

end State

end MediaQuery.Log
