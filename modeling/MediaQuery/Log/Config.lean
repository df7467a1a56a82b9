import MediaQuery.FilePath
import MediaQuery.Text.Casing
import MediaQuery.Validation
import MediaQuery.Value

/-!
# Log configuration

The least level that is recorded, the format of records, and a file to which they are also written.
-/

namespace MediaQuery.Log

open Text

/-- How grave an event is. -/
inductive Level where
  | debug
  | info
  | warning
  | error
  | critical
  deriving DecidableEq, Repr, Inhabited

namespace Level

/-- All levels, the least grave first. -/
def all : List Level := [.debug, .info, .warning, .error, .critical]

/-- The word of a level in records. -/
def name : Level → String
  | .debug => "debug"
  | .info => "info"
  | .warning => "warning"
  | .error => "error"
  | .critical => "critical"

/-- The word of a level in configurations. -/
def label (l : Level) : String := String.ofList (l.name.toList.map Char.toUpper)

/-- The place of a level on the scale. -/
def rank : Level → Nat
  | .debug => 10
  | .info => 20
  | .warning => 30
  | .error => 40
  | .critical => 50

end Level

/-- How records are written. -/
inductive Format where
  | console
  | json
  deriving DecidableEq, Repr, Inhabited

/-- All formats. -/
def Format.all : List Format := [.console, .json]

/-- The word of a format. -/
def Format.name : Format → String
  | .console => "console"
  | .json => "json"

/--
What is recorded, how, and where to besides the standard error: the least level, the format, and a
file that records are appended to, as a normal path.
-/
structure Config where
  level : Level := .warning
  format : Format := .console
  file : Option String := none
  deriving DecidableEq, Repr, Inhabited

/--
Why a configuration is refused: a list or a mapping stands where one of a set of words is looked
up, or parts are not as they should be.
-/
inductive ConfigError where
  | unhashable (kind : String)
  | invalid (issues : List Issue)
  deriving DecidableEq, Repr

/-- Lists and mappings cannot be looked up in a set. -/
def isHashable : Value → Bool
  | .scalar _ => true
  | _ => false

/-- What is said of a value that is none of a set of words, after `reason`. -/
def refusal (reason : String) (v : Value) : String :=
  match v.text? with
  | some text => reason ++ text
  | none => Numeral.limitMessage none

/-- A word of a set, from a text that is put in the letter case of the words first. -/
def checkWord {α : Type} (fold : List Char → List Char) (words : List (String × α))
    (reason : String) (v : Value) : Checked α :=
  let v :=
    match v with
    | .ofString s => .ofString (String.ofList (fold s.toList))
    | v => v
  let found :=
    match v with
    | .ofString s => words.lookup s
    | _ => none
  match found with
  | some word => .ok word
  | none => Checked.fail (.rejected (refusal reason v))

/-- A level given in any case. -/
def checkLevel : Value → Checked Level :=
  checkWord upper (Level.all.map fun l => (l.label, l)) "Invalid log level: "

/-- A format given in any case. -/
def checkFormat : Value → Checked Format :=
  checkWord lower (Format.all.map fun f => (f.name, f)) "Invalid log format: "

/-- A file path, or none. -/
def checkFile : Value → Checked (Option String)
  | .null => .ok none
  | .ofString s => .ok (some (normalizePath s))
  | _ => Checked.fail .notPath

/-- A field of a configuration with its check, or its default if it is not given. -/
def checkField {α : Type} (entries : Entries Value) (name : String) (default : α)
    (check : Value → Checked α) : Checked α :=
  match entries.get? (.text name) with
  | some v => (check v).under (.key name)
  | none => .ok default

/-- The kind of the first of some fields that cannot be looked up. -/
def unhashable? (entries : Entries Value) (names : List String) : Option String :=
  names.findSome? fun name =>
    match entries.get? (.text name) with
    | some v => if isHashable v then none else some v.kindName
    | none => none

/-- Checks the fields of a configuration. -/
def Config.ofEntries (entries : Entries Value) : Except ConfigError Config :=
  match unhashable? entries ["level", "format"] with
  | some kind => .error (.unhashable kind)
  | none =>
    let level := checkField entries "level" Level.warning checkLevel
    let format := checkField entries "format" Format.console checkFormat
    let file := checkField entries "file" none checkFile
    match (level.both format).both file with
    | .ok ((level, format), file) => .ok ⟨level, format, file⟩
    | .error issues => .error (.invalid issues)

/-- Checks a tree. -/
def Config.ofValue : Value → Except ConfigError Config
  | .map entries => ofEntries entries
  | _ => .error (.invalid [⟨[], .notRecord⟩])

end MediaQuery.Log
