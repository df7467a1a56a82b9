import MediaQuery.Log.Config
import MediaQuery.Text.Columns

/-!
# Log records

An event is a level, a text, the name of a logger and fields. It is recorded as an object or as a
line for the console, with the fields in the order of their names and texts between quotes where
they could be misread. Integers in it are taken to have few enough digits to be written.
-/

namespace MediaQuery.Log

open Text

/--
Something that is logged: how grave it is, what happened, the name of the logger if it is shown,
what else is known, and the arguments that were not put into the text.
-/
structure Event where
  level : Level
  text : String
  logger : Option String
  fields : Dict Value := .empty
  args : List Value := []

/-- An event as it is recorded, without the time. -/
inductive Record where
  | object (entries : Entries Value)
  | line (text : String)
  deriving Repr

/-! ### Lines for the console -/

/-- Characters that make a text hard to tell from what stands around it. -/
def confuses (c : Char) : Bool := [' ', '\t', '=', '\r', '\n', '"', '\''].contains c

/-- The value of a field; a text that could be misread stands between quotes. -/
def fieldText (v : Value) : String :=
  match v with
  | .ofString s => if s.toList.any confuses then quoted s else s
  | v => v.shown

/-- A text filled with spaces to at least `width` characters. -/
def padRight (width : Nat) (s : String) : String :=
  s ++ String.ofList (spaces (width - s.length))

/-- Names of what every record has; fields of these names are not shown. -/
def reservedNames : List String := ["event", "level", "logger", "timestamp"]

/-- The fields of an event without those of reserved names. -/
def Event.ownFields (e : Event) : List (String × Value) :=
  e.fields.pairs.filter fun f => !reservedNames.contains f.1

/-- Several arguments as one. -/
def argumentsText (args : List Value) : String :=
  match args with
  | [v] => "(" ++ v.shown ++ ",)"
  | vs => "(" ++ String.intercalate ", " (vs.map Value.shown) ++ ")"

/-- The fields of an event as texts, in the order of their names. -/
def Event.fieldTexts (e : Event) : List (String × String) :=
  let fields := e.ownFields.map fun (k, v) => (k, fieldText v)
  let args := if e.args.isEmpty then [] else [("positional_args", argumentsText e.args)]
  (fields ++ args).mergeSort fun a b => !decide (b.1 < a.1)

/-- The width of the level in lines. -/
def levelWidth : Nat := 9

/-- The width of the text in lines. -/
def textWidth : Nat := 30

/-- An event as a line, without spaces at its end. -/
def Event.line (e : Event) : String :=
  let parts :=
    ["[" ++ padRight levelWidth e.level.name ++ "]", padRight textWidth e.text] ++
      (e.logger.map fun name => "[" ++ name ++ "]").toList ++
      e.fieldTexts.map fun (k, v) => k ++ "=" ++ v
  String.ofList (trimRight (String.intercalate " " parts).toList)

/-! ### Objects -/

/-- An event as an object: its fields, then what every event has. -/
def Event.entries (e : Event) : Entries Value :=
  e.ownFields.map (fun (k, v) => (.text k, v)) ++
    [(.text "event", .ofString e.text), (.text "level", .ofString e.level.name)] ++
    (e.logger.map fun name => ((.text "logger" : Scalar), Value.ofString name)).toList

/-- An event as recorded in a format. -/
def Event.record (e : Event) : Format → Record
  | .console => .line e.line
  | .json => .object e.entries

end MediaQuery.Log
