import MediaQuery.Command.Arguments
import MediaQuery.Settings.Basic

/-!
# Command lines

What the arguments of the program ask for: the version, a parsed query list, whether a query list
matches, or the configured environments.
-/

namespace MediaQuery.Command

open Text

/--
What is asked for: how a query list is parsed, whether it matches an environment with some values
set (`check`), or a list of the environments (`envs`).
-/
inductive Request where
  | version
  | help
  | parse (query : String) (json : Bool) (config : String)
  | check (query : String) (env : Option String) (assignments : List String) (config : String)
  | envs (config : String)
  deriving DecidableEq, Repr

/-- The options of the program and its commands. -/
inductive OptionKey where
  | version
  | help
  | json
  | config
  | env
  | set
  deriving DecidableEq, Repr

/-- The option for help, which every command has. -/
def helpRule : OptionRule OptionKey := ⟨.help, "help", none, false⟩

/-- The option for the configuration file. -/
def configRule : OptionRule OptionKey := ⟨.config, "config", some 'c', true⟩

/-- The options before a command. -/
def programRules : List (OptionRule OptionKey) :=
  [⟨.version, "version", some 'v', false⟩, helpRule]

/-- The options of `parse`. -/
def parseRules : List (OptionRule OptionKey) :=
  [⟨.json, "json", none, false⟩, configRule, helpRule]

/-- The options of `match`. -/
def matchRules : List (OptionRule OptionKey) :=
  [⟨.env, "env", some 'e', true⟩, ⟨.set, "set", some 's', true⟩, configRule, helpRule]

/-- The options of `envs`. -/
def envsRules : List (OptionRule OptionKey) := [configRule, helpRule]

/-- The path of the configuration file. -/
def configPath (args : Arguments OptionKey) : String :=
  (args.value? .config).getD Settings.defaultPath

/-- What a command with its arguments asks for, none if it is used wrongly. -/
def readCommand (name : String) (args : List String) : Option Request :=
  if name = "parse" then do
    let args ← readArguments parseRules true args
    if args.has .help then return .help
    match args.rest with
    | [query] => some (.parse query (args.has .json) (configPath args))
    | _ => none
  else if name = "match" then do
    let args ← readArguments matchRules true args
    if args.has .help then return .help
    match args.rest with
    | [query] => some (.check query (args.value? .env) (args.values .set) (configPath args))
    | _ => none
  else if name = "envs" then do
    let args ← readArguments envsRules true args
    if args.has .help then return .help
    match args.rest with
    | [] => some (.envs (configPath args))
    | _ => none
  else none

/-- The first of the two options that end the program at once. -/
def firstEnding? (args : Arguments OptionKey) : Option Request :=
  args.options.findSome? fun o =>
    match o.1 with
    | .version => some .version
    | .help => some .help
    | _ => none

/-- What arguments ask for, none if the program is used wrongly. -/
def readRequest (args : List String) : Option Request := do
  let args ← readArguments programRules false args
  match firstEnding? args with
  | some request => return request
  | none =>
    match args.rest with
    | name :: args => readCommand name args
    | [] => none

/-- The configuration file of a request, if it has one. -/
def Request.config? : Request → Option String
  | .version => none
  | .help => none
  | .parse _ _ config => some config
  | .check _ _ _ config => some config
  | .envs config => some config

/-- A feature and a value on both sides of the first equals sign, none if there is no feature. -/
def readAssignment? (s : String) : Option (String × String) :=
  let cs := s.toList
  let feature := trim (cs.takeWhile (· != '='))
  match cs.dropWhile (· != '=') with
  | _ :: value =>
    if feature.isEmpty then none
    else some (String.ofList (lower feature), String.ofList (trim value))
  | [] => none

/-- The assignments that some arguments make, none if one of them makes none. -/
def readAssignments? : List String → Option (List (String × String))
  | [] => some []
  | s :: more =>
    match readAssignment? s with
    | some pair => (readAssignments? more).map (pair :: ·)
    | none => none

end MediaQuery.Command
