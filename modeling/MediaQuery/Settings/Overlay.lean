import MediaQuery.Environment.Record
import MediaQuery.Format.Json
import MediaQuery.Settings.Expansion
import MediaQuery.Text.Casing

/-!
# Settings from variables

Variables whose names start with `MEDIAMATCH_` and the name of a group override the settings of
a file. A variable of a group holds the group as JSON; two underscores in a name lead one level
deeper. Names are taken in lower case.

* `Variables.group?` is what the variables say about a group;
* `overlay` lays one tree over another, mapping by mapping.
-/

namespace MediaQuery

open Text

/-! ### Laying trees over each other -/

mutual

/-- `top` laid over `base`: entries of mappings on both sides are merged, else `top` wins. -/
def overlay (base top : Value) : Value :=
  match top with
  | .map es =>
    match base with
    | .map entries => .map (overlayEntries entries es)
    | _ => .map es
  | v => v

/-- Entries laid over others one by one; new keys go last. -/
def overlayEntries (base : Entries Value) : List (Scalar × Value) → Entries Value
  | [] => base
  | e :: es => overlayEntries (overlayEntry base e) es

/-- An entry laid over others. -/
def overlayEntry (base : Entries Value) : Scalar × Value → Entries Value
  | (k, v) =>
    match base.get? k with
    | some w => base.assign k (overlay w v)
    | none => base.assign k v

end

/-! ### Variables of a group -/

/-- The parts of a text between pairs of underscores. -/
def splitNesting : List Char → List (List Char)
  | '_' :: '_' :: cs => [] :: splitNesting cs
  | c :: cs =>
    match splitNesting cs with
    | part :: parts => (c :: part) :: parts
    | [] => [[c]]
  | [] => [[]]

/-- The groups of the settings. -/
inductive SettingsGroup where
  | units
  | logging
  | environments
  deriving DecidableEq, Repr

namespace SettingsGroup

/-- The name of a group. -/
def name : SettingsGroup → String
  | .units => "units"
  | .logging => "logging"
  | .environments => "environments"

/-- The name in lower case of the variable that holds the group. -/
def variableName (s : SettingsGroup) : String := "mediamatch_" ++ s.name

/-- The fields of the groups that are records. -/
def fields : SettingsGroup → List String
  | .units => ["root_font_size"]
  | .logging => ["level", "format", "file"]
  | .environments => []

end SettingsGroup

/-- The names that a feature or the media type has in environments, in lower case. -/
def knownNames : List String :=
  [EnvironmentRecord.typeName, EnvironmentRecord.typeField] ++
    Feature.all.flatMap fun f => [f.name, f.fieldName]

/--
Whether a path inside a group leads to a field with a fixed type. The name of an environment that
is also the name of a feature is taken for that feature, which has no fields.
-/
def leadsToField (s : SettingsGroup) (path : List String) : Bool :=
  match s, path with
  | .environments, [name] => knownNames.contains name
  | .environments, [name, field] => !knownNames.contains name && knownNames.contains field
  | .environments, _ => false
  | _, _ => true

/--
The value of a variable inside a group. Fields with a fixed type stay text; all else is read as
JSON, and stays text if it is none or empty.
-/
def decodeNested (s : SettingsGroup) (path : List String) (text : String) : Value :=
  if leadsToField s path || text.isEmpty then .ofString text
  else (Json.read? text).getD (.ofString text)

/--
What stands at a key once a value is set at a path below it. Nothing counts as a mapping without
entries; anything else that is no mapping stays, and the value is dropped.
-/
def placed (old : Option Value) : List String → Value → Value
  | [], v => v
  | key :: path, v =>
    match old.getD (.map []) with
    | .map es => .map (Entries.assign es (.text key) (placed (Entries.get? es (.text key)) path v))
    | w => w

/-- The names of fields of a record in their own letter case. -/
def restoreFields (s : SettingsGroup) (entries : Entries Value) : Entries Value :=
  Entries.ofList (entries.map fun (k, v) =>
    match k with
    | .text name =>
      match s.fields.find? fun f => lower f.toList == lower name.toList with
      | some f => (.text f, v)
      | none => (k, v)
    | _ => (k, v))

namespace Variables

/-- The variables under their names in lower case; of equal names the last one counts. -/
def lowered (vars : Variables) : Variables :=
  vars.foldl (fun acc (name, value) =>
    let name := String.ofList (lower name.toList)
    if (acc.lookup name).isSome then acc.map fun p => if p.1 = name then (name, value) else p
    else acc ++ [(name, value)]) []

/-- The path that the name of a variable leads into a group. -/
def path? (s : SettingsGroup) (name : String) : Option (List String) :=
  (afterStart? (s.variableName ++ "__").toList name.toList).map fun rest =>
    (splitNesting rest).map String.ofList

/-- What the nested variables say about a group. -/
def nested (s : SettingsGroup) (vars : Variables) : Dict Value :=
  vars.foldl (fun acc (name, text) =>
    match path? s name with
    | some (key :: path) =>
      acc.set key (placed (acc.get? key) path (decodeNested s (key :: path) text))
    | _ => acc) .empty

/-- What the variables in lower case say about a group; the group itself if it is no JSON. -/
def group? (s : SettingsGroup) (vars : Variables) : Except SettingsGroup (Option Value) :=
  let inner := nested s vars
  let restored (v : Value) : Value :=
    match v with
    | .map es => .map (restoreFields s es)
    | v => v
  match vars.lookup s.variableName with
  | none => .ok (inner.tree?.map restored)
  | some text =>
    match Json.read? text with
    | none => .error s
    | some .null => .ok none
    | some (.map es) => .ok (some (restored (overlay (.map es) (.map inner.entries))))
    | some v => .ok (some v)

end Variables

end MediaQuery
