import MediaQuery.Application
import MediaQuery.Command.Line
import MediaQuery.Terminal.Table

/-!
# Running commands

What a run of the program prints, records and leaves behind, and how it exits: with zero on
success, one if nothing matches or an error stops it, two if it is used wrongly.

* `Application.run` is one run; the state is handed on to the next run of the same process.
-/

namespace MediaQuery

open Command Terminal

/--
The result of a run: the exit code, what was printed, the error that stopped it, and what was
recorded.
-/
structure RunResult where
  code : Nat
  printed : String := ""
  error : Option ApplicationError := none
  records : List Log.Delivery := []

namespace RunResult

/-- A run that an error stopped. -/
def stopped (error : ApplicationError) : RunResult := { code := 1, error := some error }

/-- A run that was used wrongly, which is told elsewhere. -/
def misused : RunResult := { code := 2 }

/-- A run that prints something, unless it cannot be shown. -/
def printing (code : Nat) (text : Except MarkupError String) : RunResult :=
  match text with
  | .ok text => { code, printed := text }
  | .error e => stopped (.markup e.message)

/-- The result with records before its own. -/
def after (records : List Log.Delivery) (r : RunResult) : RunResult :=
  { r with records := records ++ r.records }

end RunResult

/-- The name and the version of the program. -/
def versionText : String := "mediamatch version 0.1.0\n"

/-- How the program is used. -/
def usageText : String :=
  "Usage: mediamatch [--version] COMMAND\n\n" ++
  "  parse QUERY [--json] [-c FILE]                      show how a query list is parsed\n" ++
  "  match QUERY [-e NAME] [-s FEATURE=VALUE] [-c FILE]  match a query list\n" ++
  "  envs [-c FILE]                                      list configured environments\n"

/-! ### Queries -/

/-- A query list as JSON. -/
def queryListJson (qs : QueryList) : Value :=
  let entry (name : String) (v : Value) : Scalar × Value := (.text name, v)
  let optional (s : Option String) : Value := (s.map Value.ofString).getD .null
  let test (t : FeatureTest) : Value := .map [
    entry "feature" (.ofString t.feature),
    entry "modifier" (optional (t.modifier.map Modifier.name)),
    entry "value" (optional t.value)]
  .list (qs.map fun q => .map [
    entry "type" (.ofString q.mediaType),
    entry "inverse" (.bool q.inverse),
    entry "expressions" (.list (q.tests.map test))])

/-- The rows of a query in the table of a query list; `number` is the place of the query. -/
def queryRows (number : Nat) (q : Query) : List (List String) :=
  let start := [toString number, if q.inverse then "not" else "", q.mediaType]
  match q.tests with
  | [] => [start ++ ["-", "-", "-"]]
  | tests => tests.map fun t =>
    start ++ [t.feature, (t.modifier.map Modifier.name).getD "-",
      (t.value.map escapeMarkup).getD "-"]

/-- A query list as a table. -/
def queryTable (qs : QueryList) : Table where
  title := "Parsed Media Query"
  heads := ["#", "Not", "Type", "Feature", "Modifier", "Value"]
  rows := (qs.mapIdx fun i q => queryRows (i + 1) q).flatten

/-- The row of an environment in the table of all, if its values can be written. -/
def environmentRow (name : String) (record : EnvironmentRecord) :
    Except MeasureError (List String) := do
  let texts ← record.toEnvironment.pairs.mapM fun (k, v) => do return k ++ "=" ++ (← v.written)
  return [name, escapeMarkup (String.intercalate ", " texts)]

/-- The environments of settings as a table. -/
def environmentTable (s : Settings) : Except MeasureError Table := do
  let rows ← s.sortedEnvironments.mapM fun (name, record) => environmentRow name record
  return { title := "Environments", heads := ["Name", "Values"], rows }

/-- A message, with its text safe from being taken for tags. -/
def message (colour text : String) : String := "[" ++ colour ++ "]" ++ text ++ "[/" ++ colour ++ "]"

/-- The names of all environments. -/
def availableNames (s : Settings) : String :=
  let names := String.intercalate ", " (s.sortedEnvironments.map (·.1))
  if names.isEmpty then "none configured" else names

/-- Several paragraphs. -/
def paragraphs (texts : List String) : Except MarkupError String :=
  (texts.mapM paragraph).map String.join

namespace Application

/-! ### Commands -/

/-- The settings in force: logging and the root font size follow them. -/
def prepare (app : Application) (around : Surroundings) (config : String) (read : Yaml.Reader) :
    Except ApplicationError Settings × Application :=
  match app.loadSettings around (some config) read with
  | (.error e, app) => (.error (.settings e), app)
  | (.ok settings, app) =>
    let app := app.setupLogging settings.logging
    match app.session.roots.configure settings.units with
    | .ok roots => (.ok settings, { app with session := { app.session with roots := roots } })
    | .error e => (.error (.rootSize e), app)

/-- What is recorded of a query list that the program rejects. -/
def rejection (app : Application) (query : String) (e : SyntaxError) : List Log.Delivery :=
  let fields := [("query", Value.ofString query), ("clause", Value.ofString e.clause)]
  match app.log.log (some "mediamatch.cli") .info "Rejected media query" [] fields with
  | .ok records => records
  | .error _ => []

/-- What is printed of a query list that is none. -/
def rejected (e : SyntaxError) : RunResult :=
  .printing 2 (paragraph (message "red" (escapeMarkup e.message)))

/-- Shows how a query list is parsed. -/
def runParse (app : Application) (query : String) (json : Bool) : RunResult × Application :=
  match app.parse query with
  | (.error e, records, app) => ((rejected e).after (records ++ app.rejection query e), app)
  | (.ok qs, records, app) =>
    let result : RunResult :=
      if json then { code := 0, printed := Json.writeIndented (queryListJson qs) ++ "\n" }
      else .printing 0 (queryTable qs).print
    (result.after records, app)

/-- The environment of a name with values set over it, none if the name is not known. -/
def baseEnvironment (s : Settings) (name : Option String) : Option Environment :=
  match name with
  | none => some .empty
  | some name => (s.environment? name).map EnvironmentRecord.toEnvironment

/-- An environment with texts set over it. -/
def withAssignments (env : Environment) (values : List (String × String)) : Environment :=
  env.setAll (values.map fun (feature, text) => (feature, .ofString text))

/-- Tells whether a query list matches an environment with some values set. -/
def runCheck (app : Application) (s : Settings) (query : String) (name : Option String)
    (assignments : List String) : RunResult × Application :=
  match baseEnvironment s name with
  | none =>
    (.printing 2 (paragraphs [
      message "red" ("Unknown environment: " ++ escapeMarkup (name.getD "")),
      "Available environments: " ++ escapeMarkup (availableNames s)]), app)
  | some env =>
    match readAssignments? assignments with
    | none => (.misused, app)
    | some values =>
      match app.parse query with
      | (.error e, records, app) => ((rejected e).after records, app)
      | (.ok qs, records, app) =>
        let result : RunResult :=
          match qs.matches app.session.roots.current (withAssignments env values) with
          | .error e => .stopped (.measure e)
          | .ok true => .printing 0 (paragraph (message "green" "match"))
          | .ok false => .printing 1 (paragraph (message "yellow" "no match"))
        (result.after records, app)

/-- Lists the environments. -/
def runEnvs (s : Settings) : RunResult :=
  if s.environments.isEmpty then
    .printing 0 (paragraphs [message "yellow" "No environments configured.",
      "Add environments to your mediamatch.yaml file."])
  else
    match environmentTable s with
    | .ok table => .printing 0 table.print
    | .error e => .stopped (.measure e)

/-- A command under the settings of a configuration file. -/
def runPrepared (app : Application) (around : Surroundings) (config : String) (read : Yaml.Reader)
    (command : Settings → Application → RunResult × Application) : RunResult × Application :=
  match app.prepare around config read with
  | (.error e, app) => (.stopped e, app)
  | (.ok settings, app) => command settings app

/-- A run of the program with some arguments. -/
def run (app : Application) (around : Surroundings) (args : List String)
    (read : Yaml.Reader := Yaml.read) : RunResult × Application :=
  match readRequest args with
  | none => (.misused, app)
  | some .version => ({ code := 0, printed := versionText }, app)
  | some .help => ({ code := 0, printed := usageText }, app)
  | some (.parse query json config) =>
    app.runPrepared around config read fun _ app => app.runParse query json
  | some (.check query env assignments config) =>
    app.runPrepared around config read fun s app => app.runCheck s query env assignments
  | some (.envs config) => app.runPrepared around config read fun s app => (runEnvs s, app)

end Application

end MediaQuery
