import MediaQuery.Dict
import MediaQuery.Number.Numeral
import MediaQuery.Number.Shortest
import MediaQuery.Text.Quoted

/-!
# Values

What environments, configuration trees and log fields are made of. A scalar can also be a key of a
mapping; a mapping keeps the order in which its keys first came.

* `Value.toText` is a value as text on its own, `Value.shown` as part of a larger one, in full;
  `Value.text?` and `Value.shown?` refuse integers of too many digits;
* `Scalar.same` is equality of keys, under which numbers of different types can be equal;
* `Entries.assign` writes a key of a mapping.
-/

namespace MediaQuery

/-- A day of the calendar; months and days of the month are counted from one. -/
structure Day where
  year : Nat
  month : Nat
  day : Nat
  deriving DecidableEq, Repr

/-- A time of a day, to the microsecond, with the minutes ahead of universal time when known. -/
structure Clock where
  hour : Nat
  minute : Nat
  second : Nat
  micro : Nat
  offset : Option Int
  deriving DecidableEq, Repr

/-- A value without parts. -/
inductive Scalar where
  | null
  | bool (b : Bool)
  | int (i : Int)
  | float (x : Binary64)
  | text (s : String)
  | date (day : Day)
  | moment (day : Day) (clock : Clock)
  deriving DecidableEq, Repr, Inhabited

/-- A scalar, a list or a mapping in the order of its keys. -/
inductive Value where
  | scalar (s : Scalar)
  | list (items : List Value)
  | map (entries : List (Scalar × Value))
  deriving Repr, Inhabited

/--
What stands in a mapping, entry by entry: keys of any kind with trees or values of another kind. A
key that comes twice counts where it comes first.
-/
abbrev Entries (α : Type) := List (Scalar × α)

namespace Value

/-- The null value. -/
@[match_pattern] abbrev null : Value := .scalar .null

/-- A truth value. -/
@[match_pattern] abbrev bool (b : Bool) : Value := .scalar (.bool b)

/-- An integer. -/
@[match_pattern] abbrev int (i : Int) : Value := .scalar (.int i)

/-- A binary64 number. -/
@[match_pattern] abbrev float (x : Binary64) : Value := .scalar (.float x)

/-- A text. -/
@[match_pattern] abbrev ofString (s : String) : Value := .scalar (.text s)

end Value

/-! ### Values as text -/

/-- A number with at least `width` digits. -/
def padded (width n : Nat) : String :=
  let digits := toString n
  String.ofList (List.replicate (width - digits.length) '0') ++ digits

namespace Day

/-- Year, month and day with hyphens between them. -/
def text (d : Day) : String := padded 4 d.year ++ "-" ++ padded 2 d.month ++ "-" ++ padded 2 d.day

/-- The numbers of a day, separated by commas. -/
def fields (d : Day) : List String := [toString d.year, toString d.month, toString d.day]

end Day

namespace Clock

/-- Hour and minute of a distance in minutes. -/
def offsetText (minutes : Int) : String :=
  (if minutes < 0 then "-" else "+") ++ padded 2 (minutes.natAbs / 60) ++ ":" ++
    padded 2 (minutes.natAbs % 60)

/-- Hours to seconds, with six more digits if they are not all zero, and the offset if known. -/
def text (c : Clock) : String :=
  padded 2 c.hour ++ ":" ++ padded 2 c.minute ++ ":" ++ padded 2 c.second ++
    (if c.micro = 0 then "" else "." ++ padded 6 c.micro) ++
    (match c.offset with
      | some minutes => offsetText minutes
      | none => "")

/-- The numbers of a clock, without trailing zeros after the minute. -/
def fields (c : Clock) : List String :=
  [toString c.hour, toString c.minute] ++
    (if c.second = 0 ∧ c.micro = 0 then []
      else if c.micro = 0 then [toString c.second]
      else [toString c.second, toString c.micro]) ++
    (match c.offset with
      | some 0 => ["tzinfo=datetime.timezone.utc"]
      | some minutes =>
        let seconds := minutes * 60
        let days := seconds.fdiv 86400
        let rest := seconds.fmod 86400
        ["tzinfo=datetime.timezone(datetime.timedelta(" ++
          (if days = 0 then "" else "days=" ++ toString days ++ ", ") ++
          "seconds=" ++ toString rest ++ "))"]
      | none => [])

end Clock

namespace Scalar

/-- A scalar as text on its own, an integer with all its digits. -/
def toText : Scalar → String
  | .null => "None"
  | .bool true => "True"
  | .bool false => "False"
  | .int i => toString i
  | .float x => x.text
  | .text s => s
  | .date d => d.text
  | .moment d c => d.text ++ " " ++ c.text

/-- A scalar as part of a larger value: texts are quoted and dates say what they are. -/
def shown : Scalar → String
  | .text s => Text.quoted s
  | .date d => "datetime.date(" ++ String.intercalate ", " d.fields ++ ")"
  | .moment d c => "datetime.datetime(" ++ String.intercalate ", " (d.fields ++ c.fields) ++ ")"
  | s => s.toText

/-- Integers have no text if they have too many digits. -/
def isWritable : Scalar → Bool
  | .int i => Binary64.decimalLength i.natAbs ≤ Numeral.digitLimit
  | _ => true

end Scalar

namespace Value

mutual

/-- A value as part of a larger one. -/
def shown : Value → String
  | .scalar s => s.shown
  | .list items => "[" ++ String.intercalate ", " (shownItems items) ++ "]"
  | .map entries => "\x7b" ++ String.intercalate ", " (shownEntries entries) ++ "\x7d"

/-- The items of a list, each as part of a larger value. -/
def shownItems : List Value → List String
  | [] => []
  | v :: vs => shown v :: shownItems vs

/-- The entries of a mapping, each as part of a larger value. -/
def shownEntries : List (Scalar × Value) → List String
  | [] => []
  | e :: es => shownEntry e :: shownEntries es

/-- A key, a colon and a value. -/
def shownEntry : Scalar × Value → String
  | (k, v) => k.shown ++ ": " ++ shown v

end

/-- A value as text on its own, integers with all their digits. -/
def toText : Value → String
  | .scalar s => s.toText
  | v => v.shown

mutual

/-- No integer in a value has too many digits. -/
def isWritable : Value → Bool
  | .scalar s => s.isWritable
  | .list items => areWritable items
  | .map entries => entriesWritable entries

/-- No integer in some values has too many digits. -/
def areWritable : List Value → Bool
  | [] => true
  | v :: vs => isWritable v && areWritable vs

/-- No integer in some entries has too many digits. -/
def entriesWritable : List (Scalar × Value) → Bool
  | [] => true
  | e :: es => entryWritable e && entriesWritable es

/-- No integer in a key and its value has too many digits. -/
def entryWritable : Scalar × Value → Bool
  | (k, v) => k.isWritable && isWritable v

end

/-- A value as text on its own, if its integers can be written. -/
def text? (v : Value) : Option String := if v.isWritable then some v.toText else none

/-- A value as part of a larger one, if its integers can be written. -/
def shown? (v : Value) : Option String := if v.isWritable then some v.shown else none

/-- What kind of value it is, in the words of error messages. -/
def kindName : Value → String
  | .null => "NoneType"
  | .bool _ => "bool"
  | .int _ => "int"
  | .float _ => "float"
  | .ofString _ => "str"
  | .scalar (.date _) => "datetime.date"
  | .scalar (.moment _ _) => "datetime.datetime"
  | .list _ => "list"
  | .map _ => "dict"

/-- The values that a condition takes for false: null, zero and whatever is empty. -/
def isEmpty : Value → Bool
  | .null => true
  | .bool b => !b
  | .int i => i == 0
  | .float x => x.eq Binary64.zero
  | .ofString s => s.isEmpty
  | .list items => items.isEmpty
  | .map entries => entries.isEmpty
  | _ => false

end Value

/-! ### Keys and mappings -/

namespace Scalar

/-- The integer that a truth value, an integer or a number without fraction stands for. -/
def wholeNumber? : Scalar → Option Int
  | .bool b => some (if b then 1 else 0)
  | .int i => some i
  | .float x => x.toInt?
  | _ => none

/--
Equality of keys: numbers are compared by value, whatever their type, and all else by type and
content. NaN is equal to nothing.
-/
def same (a b : Scalar) : Bool :=
  match a.wholeNumber?, b.wholeNumber? with
  | some x, some y => x == y
  | some _, none => false
  | none, some _ => false
  | none, none =>
    match a, b with
    | .float x, .float y => x.eq y
    | _, _ => a == b

end Scalar

namespace Entries

variable {α : Type}

/-- The value of a key. -/
def get? (entries : Entries α) (key : Scalar) : Option α :=
  (entries.find? fun e => e.1.same key).map (·.2)

/-- The entries with `key` set: an equal key keeps its place and its form, a new one goes last. -/
def assign : Entries α → Scalar → α → Entries α
  | [], key, v => [(key, v)]
  | (k, w) :: es, key, v => if k.same key then (k, v) :: es else (k, w) :: assign es key v

/-- Entries written one by one, so that of equal keys the last one counts. -/
def ofList (entries : List (Scalar × α)) : Entries α :=
  entries.foldl (fun acc e => acc.assign e.1 e.2) []

/-- Entries whose keys are texts. -/
def ofNames (ps : List (String × α)) : Entries α := ps.map fun p => (.text p.1, p.2)

end Entries

/-- A dictionary as the entries of a mapping. -/
def Dict.entries {α : Type} (d : Dict α) : Entries α := Entries.ofNames d.pairs

/-- A dictionary as a tree, nothing if it is empty. -/
def Dict.tree? (d : Dict Value) : Option Value :=
  if d.pairs.isEmpty then none else some (.map d.entries)

end MediaQuery
