import MediaQuery.RootSize
import MediaQuery.Validation

/-!
# Unit settings

The group of the settings that holds the root font size, a number above zero and at most one
thousand. Texts are read with a grammar of their own: digits are ASCII, and underscores may
separate any two characters once the text is not a number as it stands.
-/

namespace MediaQuery

open Text

/-- Checked unit settings: the size that `em` and `rem` stand for. -/
structure UnitSettings where
  rootFontSize : Binary64
  deriving DecidableEq, Repr

namespace UnitSettings

/-- The settings when nothing is given. -/
def default : UnitSettings := ⟨Measure.ofNat 16⟩

/-- The key of the root font size. -/
def sizeName : String := "root_font_size"

/-- The greatest root font size. -/
def greatestSize : Binary64 := Measure.ofNat 1000

/-- A number written in ASCII. -/
def asciiNumber? (cs : List Char) : Option Binary64 :=
  if cs.all fun c => c.toNat < 128 then plainNumber? cs else none

/-- A text without underscores, if they neither start nor end it nor stand together. -/
def withoutSeparators? (cs : List Char) : Option (List Char) :=
  if (splitOn '_' cs).any (·.isEmpty) then none else some (cs.filter (· != '_'))

/-- The number that a text is. -/
def readNumber? (cs : List Char) : Option Binary64 :=
  (asciiNumber? (unpadded cs)).or ((withoutSeparators? cs).bind asciiNumber?)

/-- A number, from a value of a numeric type or a text. -/
def checkNumber (v : Value) : Checked Binary64 :=
  match v with
  | .ofString s =>
    match readNumber? s.toList with
    | some x => .ok x
    | none => Checked.fail .unreadableNumber
  | v =>
    match Measure.typedNumber? v with
    | some (.ok x) => .ok x
    | _ => Checked.fail .notNumber

/-- A root font size within its bounds. -/
def checkSize (v : Value) : Checked Binary64 :=
  match checkNumber v with
  | .error issues => .error issues
  | .ok x =>
    if !x.le greatestSize then Checked.fail .tooLarge
    else if !Binary64.zero.lt x then Checked.fail .tooSmall
    else .ok x

/-- Checks the fields of the settings. -/
def ofEntries (entries : Entries Value) : Checked UnitSettings :=
  match entries.get? (.text sizeName) with
  | none => .ok default
  | some v => ((checkSize v).under (.key sizeName)).map UnitSettings.mk

/-- Checks a tree. -/
def ofValue : Value → Checked UnitSettings
  | .map entries => ofEntries entries
  | _ => Checked.fail .notRecord

end UnitSettings

/-- The state with a checked size in force. -/
def RootSizes.configure (s : RootSizes) (units : UnitSettings) : Except RootSizeError RootSizes :=
  s.set (.float units.rootFontSize)

end MediaQuery
