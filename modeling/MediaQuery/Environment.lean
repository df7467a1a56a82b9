import MediaQuery.Value

/-!
# Environments

What is known about the place where a query is matched: values of features by name. The media type
is the value of the name `type`.
-/

namespace MediaQuery

/-- Values by feature name. -/
abbrev Environment := Dict Value

namespace Environment

/--
The environment of a mapping whose keys may be any scalars: each key counts as its text. Integers
among the keys are taken to have few enough digits to be written.
-/
def ofEntries (entries : Entries Value) : Environment :=
  Dict.empty.setAll (entries.map fun e => (e.1.toText, e.2))

/-- The values that count as absent: none, null, the empty text and NaN. -/
def isMissing : Option Value → Bool
  | none => true
  | some .null => true
  | some (.ofString s) => s.isEmpty
  | some (.float x) => x.isNaN
  | some _ => false

end Environment

end MediaQuery
