import MediaQuery.Format.Yaml.Document
import MediaQuery.Log.Config
import MediaQuery.Settings.Overlay
import MediaQuery.Settings.Units

/-!
# Settings

The settings of a process: units, logging, and environments by name. They are made from a tree,
over which variables are laid; what is wrong with the groups is reported together, in their order.

How a file is read is not settled here: what loads a file takes any reader of YAML. `Yaml.read` is
the one that is used if none is given.
-/

namespace MediaQuery

open Text

/-- Checked settings: the root font size, what is logged and how, and environments by name. -/
structure Settings where
  units : UnitSettings
  logging : Log.Config
  environments : List (String × EnvironmentRecord)
  deriving Repr

/--
Why there are no settings. There is no file, it is not YAML, or it holds a scalar that stands for
nothing; the tree is no mapping, or a key at its top is no text; a list or a mapping stands where
one of a set of words is looked up; the variable of a group holds no JSON; or parts are not as they
should be.
-/
inductive SettingsError where
  | missingFile (path : String)
  | malformedFile
  | badScalar (reason : String)
  | notMapping (kind : String)
  | keyNotText
  | unhashable (kind : String)
  | unreadableVariable (group : SettingsGroup)
  | invalid (issues : List Issue)
  deriving DecidableEq, Repr

/-- A file holds a date that does not exist. -/
@[match_pattern] abbrev SettingsError.badDate (reason : String) : SettingsError :=
  .badScalar reason

/-- The text of the error, if it has one. -/
def SettingsError.message? : SettingsError → Option String
  | .missingFile path => some ("Configuration file not found: " ++ path)
  | .malformedFile => none
  | .badScalar reason => some reason
  | .notMapping kind =>
    some ("mediamatch.config.Settings() argument after ** must be a mapping, not " ++ kind)
  | .keyNotText => some "keywords must be strings"
  | .unhashable kind => some ("unhashable type: '" ++ kind ++ "'")
  | .unreadableVariable group =>
    some ("error parsing value for field \"" ++ group.name ++
      "\" from source \"EnvSettingsSource\"")
  | .invalid _ => none

namespace Settings

/-! ### Environments -/

/-- The name of an environment and the environment itself, both checked. -/
def checkEnvironment (key : Scalar) (v : Value) : Checked (String × EnvironmentRecord) :=
  let place := EnvironmentRecord.placeOfKey key
  let name : Checked String :=
    match key with
    | .text s => .ok s
    | _ => (Checked.fail .notText).under (.key "[key]")
  (name.both (EnvironmentRecord.ofValue v)).under place

/-- Environments by name. -/
def checkEnvironments : Value → Checked (List (String × EnvironmentRecord))
  | .map entries => Checked.all (entries.map fun e => checkEnvironment e.1 e.2)
  | _ => Checked.fail .notMapping

/-! ### Groups -/

/-- What is given for a group; its name may be in any case. -/
def givenGroup? (entries : Entries Value) (group : SettingsGroup) : Option Value :=
  (entries.get? (.text group.name)).or
    (entries.findSome? fun (key, v) =>
      match key with
      | .text s => if String.ofList (lower s.toList) = group.name then some v else none
      | _ => none)

/-- The logging group, with a lookup that cannot be done kept apart from issues. -/
def checkLogging (v : Option Value) : Except SettingsError (Checked Log.Config) :=
  match v with
  | none => .ok (.ok {})
  | some v =>
    match Log.Config.ofValue v with
    | .ok config => .ok (.ok config)
    | .error (.invalid issues) => .ok (Checked.under (.key "logging") (.error issues))
    | .error (.unhashable kind) => .error (.unhashable kind)

/-- The settings of what is given for the three groups. -/
def ofGroups (units logging environments : Option Value) : Except SettingsError Settings := do
  let logging ← checkLogging logging
  let units : Checked UnitSettings :=
    match units with
    | none => .ok UnitSettings.default
    | some v => (UnitSettings.ofValue v).under (.key "units")
  let environments : Checked (List (String × EnvironmentRecord)) :=
    match environments with
    | none => .ok []
    | some v => (checkEnvironments v).under (.key "environments")
  match (units.both logging).both environments with
  | .ok ((units, logging), environments) => return ⟨units, logging, environments⟩
  | .error issues => throw (.invalid issues)

/-- What is given for a group, with what the variables say about it laid over. -/
def merged (given top : Option Value) : Option Value :=
  match given, top with
  | some given, some top => some (overlay given top)
  | given, none => given
  | none, top => top

/-- The settings of the entries at the top of a tree and of variables. -/
def ofEntries (entries : Entries Value) (vars : Variables) : Except SettingsError Settings := do
  let vars := vars.lowered
  let group (g : SettingsGroup) : Except SettingsError (Option Value) :=
    match vars.group? g with
    | .ok top => .ok (merged (givenGroup? entries g) top)
    | .error g => .error (.unreadableVariable g)
  let units ← group .units
  let logging ← group .logging
  let environments ← group .environments
  ofGroups units logging environments

/-- The test for texts. -/
def isText : Scalar → Bool
  | .text _ => true
  | _ => false

/-- The settings of a tree and of variables. -/
def ofValue (config : Value) (vars : Variables) : Except SettingsError Settings :=
  match config with
  | .map entries =>
    if entries.all fun e => isText e.1 then ofEntries entries vars else .error .keyNotText
  | v => .error (.notMapping v.kindName)

/-! ### Files -/

/-- The configuration tree of a file; an empty one is a mapping without entries. -/
def configTree (files : Files) (path : String) (read : Yaml.Reader := Yaml.read) :
    Except SettingsError Value :=
  match files.read? path with
  | none => .error (.missingFile (normalizePath path))
  | some text =>
    match read text with
    | .ok v => .ok (if v.isEmpty then .map [] else v)
    | .error .malformed => .error .malformedFile
    | .error (.badDate reason) => .error (.badDate reason)
    | .error (.tooManyDigits count) => .error (.badScalar (Numeral.limitMessage (some count)))

/-- The file that settings are read from when no path is given. -/
def defaultPath : String := "mediamatch.yaml"

/-- The settings of a file, which may be missing, and of variables. -/
def load (files : Files) (vars : Variables) (path : Option String)
    (read : Yaml.Reader := Yaml.read) : Except SettingsError Settings :=
  match configTree files (path.getD defaultPath) read with
  | .ok config => ofValue (vars.expand config) vars
  | .error (.missingFile _) => ofEntries [] vars
  | .error e => .error e

/-- An environment by name. -/
def environment? (s : Settings) (name : String) : Option EnvironmentRecord :=
  s.environments.lookup name

/-- The environments in the order of their names. -/
def sortedEnvironments (s : Settings) : List (String × EnvironmentRecord) :=
  s.environments.mergeSort fun a b => !decide (b.1 < a.1)

end Settings

end MediaQuery
