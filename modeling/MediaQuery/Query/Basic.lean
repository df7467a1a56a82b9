/-!
# Media queries

A query list is a list of alternatives. Each query names a media type, may be inverted, and holds
feature tests that must all hold. Values are kept as written. The functions at the end write
queries back as text.
-/

namespace MediaQuery

/-- Whether a test bounds its feature from below or from above. -/
inductive Modifier where
  | min
  | max
  deriving DecidableEq, Repr, Inhabited

/--
A parenthesized test of a feature, such as `(min-width: 48em)`: the name of the feature without
vendor and range parts, a bound instead of equality, and the value to compare with. A test without a
value asks for presence.
-/
structure FeatureTest where
  feature : String
  modifier : Option Modifier := none
  value : Option String := none
  deriving DecidableEq, Repr, Inhabited

/--
One query of a list: the media type, `all` for any, whether it is written with `not`, and the tests
that must all hold.
-/
structure Query where
  mediaType : String := "all"
  inverse : Bool := false
  tests : List FeatureTest := []
  deriving DecidableEq, Repr, Inhabited

/-- Queries of which one must match. -/
abbrev QueryList := List Query

/-- The word of a modifier. -/
def Modifier.name : Modifier → String
  | .min => "min"
  | .max => "max"

/-- The test as written in a query. -/
def FeatureTest.text (t : FeatureTest) : String :=
  let name :=
    match t.modifier with
    | some m => m.name ++ "-" ++ t.feature
    | none => t.feature
  match t.value with
  | some v => "(" ++ name ++ ": " ++ v ++ ")"
  | none => "(" ++ name ++ ")"

/-- The query as written in a query list: the type, then the tests, joined by `and`. -/
def Query.text (q : Query) : String :=
  let head := if q.inverse then "not " ++ q.mediaType else q.mediaType
  String.intercalate " and " (head :: q.tests.map FeatureTest.text)

/-- The queries separated by commas. -/
def QueryList.text (qs : QueryList) : String := String.intercalate ", " (qs.map Query.text)

end MediaQuery
