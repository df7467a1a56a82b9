import MediaQuery.Environment
import MediaQuery.Feature
import MediaQuery.Measure
import MediaQuery.Query.Basic

/-!
# Matching

Whether an environment satisfies a query list. A list matches when one of its queries does; tests
and queries are tried in order and no further than needed, so a value that has no number is an
error only where it is reached.
-/

namespace MediaQuery

open Text

/-- Numbers that differ by rounding of unit conversions count as equal. -/
def tolerance : Binary64.Tolerance :=
  ⟨Binary64.ofDecimal false 1 (-9), Binary64.ofDecimal false 1 (-9)⟩

/-- Equality, or a bound, up to the tolerance. -/
def compareNumbers (modifier : Option Modifier) (actual expected : Binary64) : Bool :=
  let close := Binary64.near tolerance actual expected
  match modifier with
  | some .min => close || expected.lt actual
  | some .max => close || actual.lt expected
  | none => close

/-- A text as a keyword: trimmed and in lower case. -/
def keywordOf (text : String) : List Char := lower (trim text.toList)

/-- A value as a keyword, by its text; a number without fraction is written as an integer. -/
def keyword (v : Value) : Except MeasureError (List Char) :=
  let v :=
    match v with
    | .float x => (x.toInt?.map Value.int).getD (.float x)
    | v => v
  v.written.map keywordOf

/-- Keywords that stand for the absence of what a feature names. -/
def falseKeywords : List String := ["none", "no-preference", "0"]

/-- Equality of keywords; without an expected one, the actual one must not be a false keyword. -/
def compareWords (word : List Char) (expected : Option String) : Bool :=
  match expected with
  | none => !falseKeywords.contains (String.ofList word)
  | some text => word = keywordOf text

/-- The comparison of a value, as a keyword, with an expected one. -/
def compareKeywords (actual : Value) (expected : Option String) : Except MeasureError Bool :=
  (keyword actual).map fun word => compareWords word expected

/-- The value of a test as a value, null if it has none. -/
def FeatureTest.literal (t : FeatureTest) : Value :=
  match t.value with
  | some v => .ofString v
  | none => .null

/-- Compares two values as numbers of one measure, the actual one first. -/
def compareMeasures (measure : Value → Except MeasureError Binary64) (modifier : Option Modifier)
    (actual expected : Value) : Except MeasureError Bool :=
  match measure actual with
  | .error e => .error e
  | .ok x =>
    match measure expected with
    | .error e => .error e
    | .ok y => .ok (compareNumbers modifier x y)

/-- A count with a default for values that are no numbers. -/
def countOr (default : Nat) (v : Value) : Except MeasureError Binary64 :=
  (Measure.count? v).map fun x => x.getD (Measure.ofNat default)

/-- The comparison of a test with the value of its feature. -/
def FeatureTest.compare (root : Binary64) (t : FeatureTest) (v : Value) :
    Except MeasureError Bool :=
  match FeatureKind.ofName t.feature with
  | .length => compareMeasures (Measure.pixels root) t.modifier v t.literal
  | .resolution => compareMeasures Measure.dotsPerInch t.modifier v t.literal
  | .ratio => compareMeasures Measure.decimal t.modifier v t.literal
  | .count =>
    match countOr 0 v with
    | .error e => .error e
    | .ok x =>
      match countOr 1 t.literal with
      | .error e => .error e
      | .ok y => .ok (compareNumbers t.modifier x y)
  | .keyword => compareKeywords v t.value

/-- A test holds when its feature has a value and the comparison succeeds. -/
def FeatureTest.matches (root : Binary64) (env : Environment) (t : FeatureTest) :
    Except MeasureError Bool :=
  match env.get? t.feature with
  | none => .ok false
  | some v => if Environment.isMissing (some v) then .ok false else t.compare root v

/-- All tests hold; the first that does not decides. -/
def allMatch (root : Binary64) (env : Environment) : List FeatureTest → Except MeasureError Bool
  | [] => .ok true
  | t :: ts =>
    match t.matches root env with
    | .error e => .error e
    | .ok false => .ok false
    | .ok true => allMatch root env ts

/-- The media type of a query is that of the environment, or any. -/
def Query.typeMatches (env : Environment) (q : Query) : Bool :=
  q.mediaType == "all" ||
    match env.get? "type" with
    | some (.ofString s) => s == q.mediaType
    | _ => false

/--
A query matches when its type and all its tests do. An inverted one matches when its type does not
and some test fails.
-/
def Query.matches (root : Binary64) (env : Environment) (q : Query) : Except MeasureError Bool :=
  if q.typeMatches env == q.inverse then .ok false
  else (allMatch root env q.tests).map (· != q.inverse)

/-- A query list matches when one of its queries does; the first that does decides. -/
def QueryList.matches (root : Binary64) (env : Environment) : QueryList → Except MeasureError Bool
  | [] => .ok false
  | q :: qs =>
    match q.matches root env with
    | .error e => .error e
    | .ok true => .ok true
    | .ok false => QueryList.matches root env qs

end MediaQuery
