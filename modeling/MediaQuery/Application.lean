import MediaQuery.Log.State
import MediaQuery.Session.Basic
import MediaQuery.Settings.Holder

/-!
# The state of an application

What one process shares between all that it does: the session with its caches and the root font
size, the settings that were loaded, and logging. Parsing through the default cache tells the log
about every query list that was not parsed before.
-/

namespace MediaQuery

/-- What a process finds around it: the files and the variables. -/
structure Surroundings where
  files : Files
  vars : Variables

/-- Why an application stops. -/
inductive ApplicationError where
  | grammar (e : SyntaxError)
  | settings (e : SettingsError)
  | measure (e : MeasureError)
  | rootSize (e : RootSizeError)
  | template (e : Log.TemplateError)
  | markup (reason : String)
  deriving Repr

/-- The steps to a place, joined by dots. -/
def Issue.text (issue : Issue) : String :=
  let step : Place → String
    | .key name => name
    | .index i => toString i
  String.intercalate "." (issue.place.map step) ++ ": " ++
    issue.complaint.message?.getD issue.complaint.code

/-- The text of the error. -/
def ApplicationError.text : ApplicationError → String
  | .grammar e => e.message
  | .settings (.invalid issues) => String.intercalate "\n" (issues.map Issue.text)
  | .settings e => e.message?.getD "The configuration file is malformed"
  | .measure e => e.message
  | .rootSize e => e.message
  | .template e => e.message
  | .markup reason => reason

/-- The state of a process: its caches and root font size, its settings, and its logging. -/
structure Application where
  session : Session.State
  settings : SettingsHolder
  log : Log.State

namespace Application

/-- The state of a new process. -/
def initial : Application := ⟨Session.State.initial, SettingsHolder.empty, Log.State.initial⟩

/-- The settings, which are loaded if there are none. -/
def loadSettings (app : Application) (around : Surroundings) (path : Option String)
    (read : Yaml.Reader) : Except SettingsError Settings × Application :=
  let (result, holder) := app.settings.get around.files around.vars path false read
  (result.map (·.2), { app with settings := holder })

/-- The state with a log configuration in force. -/
def setupLogging (app : Application) (config : Log.Config) : Application :=
  { app with log := app.log.configure config }

/-- The state with the log configuration of the settings in force. -/
def setupLoggingFromSettings (app : Application) (around : Surroundings)
    (read : Yaml.Reader := Yaml.read) : Except SettingsError Unit × Application :=
  match app.loadSettings around none read with
  | (.ok settings, app) => (.ok (), app.setupLogging settings.logging)
  | (.error e, app) => (.error e, app)

/-- The tree that the default cache holds for a text. -/
def cached? (app : Application) (query : String) : Option Nat :=
  (app.session.library.cache app.session.library.default).get? query

/--
Parses a query list through the default cache: its tree, what is recorded, and the state after
that. Only a text that was not in the cache and is a query list is told to the log.
-/
def parse (app : Application) (query : String) :
    Except SyntaxError QueryList × List Log.Delivery × Application :=
  let lib := app.session.library
  match lib.parse lib.default query with
  | .error e => (.error e, [], app)
  | .ok (n, after) =>
    let tree := after.tree n
    let app' := { app with session := app.session.withLibrary after }
    if (app.cached? query).isSome then (.ok tree, [], app')
    else
      let (records, log) := app'.log.parsed query tree.length
      (.ok tree, records, { app' with log := log })

end Application

end MediaQuery
