import MediaQuery.Environment
import MediaQuery.Feature
import MediaQuery.Validation

/-!
# Environment records

An environment that was checked against the known features. Each feature can be given under its
name in queries or, with underscores, as a field; the former wins and the latter then counts as an
extra value. Extra values are kept as they are.
-/

namespace MediaQuery

/--
A checked environment: the media type and the features that are set, in the order of the record,
and all other values in the order given, null included.
-/
structure EnvironmentRecord where
  mediaType : Option String
  features : List (Feature × Value)
  extras : Dict Value
  deriving Repr, Inhabited

namespace EnvironmentRecord

/-- The order of the features of a record. -/
def fieldOrder : List Feature := [
  .width, .height, .deviceWidth, .deviceHeight, .resolution, .aspectRatio, .deviceAspectRatio,
  .devicePixelRatio, .grid, .color, .colorIndex, .monochrome, .colorGamut, .prefersColorScheme,
  .prefersContrast, .prefersReducedMotion, .forcedColors, .invertedColors, .hover, .pointer,
  .anyHover, .anyPointer, .orientation]

/-- The key of the media type. -/
def typeName : String := "type"

/-- The field of the media type. -/
def typeField : String := "media_type"

/-- The key under which a field is given: its name, else the name of the field, if either is. -/
def givenKey? (entries : Entries Value) (name field : String) : Option String :=
  if (entries.get? (.text name)).isSome then some name
  else if (entries.get? (.text field)).isSome then some field
  else none

/-- What is given for a field. -/
def given? (entries : Entries Value) (name field : String) : Option Value :=
  (givenKey? entries name field).bind fun key => entries.get? (.text key)

/-- The place of a field: the key under which it is given, else its name. -/
def fieldPlace (entries : Entries Value) (name field : String) : Place :=
  .key ((givenKey? entries name field).getD name)

/-- The media type: a text, or nothing. -/
def checkType : Option Value → Checked (Option String)
  | none | some .null => .ok none
  | some (.ofString s) => .ok (some s)
  | some _ => Checked.fail .notText

/-- The value of a feature: an integer, a number or a text, or nothing; a truth value counts. -/
def checkFeature : Option Value → Checked (Option Value)
  | none | some .null => .ok none
  | some (.bool b) => .ok (some (.int b.toNat))
  | some (.int i) => .ok (some (.int i))
  | some (.float x) => .ok (some (.float x))
  | some (.ofString s) => .ok (some (.ofString s))
  | some _ => .error [
      ⟨[.key "int"], .notInteger⟩, ⟨[.key "float"], .notNumber⟩, ⟨[.key "str"], .notText⟩]

/-- The keys that fields are taken from. -/
def usedKeys (entries : Entries Value) : List String :=
  ((typeName, typeField) :: fieldOrder.map fun f => (f.name, f.fieldName)).filterMap fun p =>
    givenKey? entries p.1 p.2

/-- The place of a key, as far as it can be told. -/
def placeOfKey (key : Scalar) : Place :=
  match key with
  | .text s => .key s
  | .int i => .index i
  | .bool b => .index b.toNat
  | key => .key key.shown

/-- The entry of a key that is no field; the key must be a text. -/
def checkExtra (key : Scalar) (v : Value) : Checked (String × Value) :=
  match key with
  | .text s => .ok (s, v)
  | key => (Checked.fail .invalidKey).under (placeOfKey key)

/-- Checks the entries of a mapping: the type, the features in their order, then all others. -/
def ofEntries (entries : Entries Value) : Checked EnvironmentRecord :=
  let mediaType :=
    (checkType (given? entries typeName typeField)).under (fieldPlace entries typeName typeField)
  let features := Checked.all (fieldOrder.map fun f =>
    ((checkFeature (given? entries f.name f.fieldName)).under
      (fieldPlace entries f.name f.fieldName)).map fun v => (f, v))
  let used := usedKeys entries
  let others := entries.filter fun e =>
    match e.1 with
    | .text s => !used.contains s
    | _ => true
  let extras := Checked.all (others.map fun e => checkExtra e.1 e.2)
  ((mediaType.both features).both extras).map fun ((mediaType, features), extras) =>
    ⟨mediaType, features.filterMap fun (f, v) => v.map fun v => (f, v), .ofPairs extras⟩

/-- Checks a tree. -/
def ofValue : Value → Checked EnvironmentRecord
  | .map entries => ofEntries entries
  | _ => Checked.fail .notRecord

/-- What is set, under the names of fields. -/
def fields (r : EnvironmentRecord) : List (String × Value) :=
  (r.mediaType.map fun s => (typeField, Value.ofString s)).toList ++
    r.features.map fun (f, v) => (f.fieldName, v)

/-- The test for null. -/
def isNull : Value → Bool
  | .null => true
  | _ => false

/-- The record as an environment: what is set, under the names of queries, then the extra values. -/
def toEnvironment (r : EnvironmentRecord) : Environment :=
  .ofPairs ((r.mediaType.map fun s => (typeName, Value.ofString s)).toList ++
    r.features.map (fun (f, v) => (f.name, v)) ++ (r.extras.filter fun e => !isNull e.2).pairs)

end EnvironmentRecord

end MediaQuery
