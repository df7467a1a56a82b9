import MediaQuery.Query.Basic
import MediaQuery.Query.Token
import MediaQuery.Text.Casing

/-!
# Reading feature tests

The body of a group is a feature name, optionally followed by a colon and a value. `readName`
takes a name apart into a range modifier and the feature proper, dropping vendor parts.
-/

namespace MediaQuery.Query

open Text

/-- Vendor parts that a feature name may start with. -/
def vendors : List String := ["-webkit-", "-moz-", "-o-"]

/-- The name without a vendor part, and the name itself. -/
def withoutVendor (cs : List Char) : List (List Char) :=
  vendors.filterMap (fun v => afterStart? v.toList cs) ++ [cs]

/-- The name without a range modifier, and the name itself. -/
def withoutModifier (cs : List Char) : List (Option Modifier × List Char) :=
  [Modifier.min, Modifier.max].filterMap (fun m =>
    (afterStart? (m.name ++ "-").toList cs).map fun rest => (some m, rest)) ++ [(none, cs)]

/-- The name without an inner vendor part, and the name itself. -/
def withoutInnerVendor (cs : List Char) : List (List Char) :=
  (afterStart? "-moz-".toList cs).toList ++ [cs]

/-- All ways to take a name apart, those that drop the most in front first. -/
def nameReadings (token : List Char) : List (Option Modifier × List Char) :=
  (withoutVendor token).flatMap fun a =>
    (withoutModifier a).flatMap fun (m, b) => (withoutInnerVendor b).map fun c => (m, c)

/-- The modifier and the feature of a name: the first reading that leaves something of the name. -/
def readName (token : List Char) : Option Modifier × List Char :=
  ((nameReadings token).find? fun r => !r.2.isEmpty).getD (none, token)

/-- The test that the body of a group spells. The value is trimmed of all white space. -/
def readTest? (body : List Char) : Option FeatureTest :=
  match name? startsFeature continuesFeature (skipGaps body) with
  | none => none
  | some (token, rest) =>
    let (modifier, feature) := readName (lower token)
    match skipGaps rest with
    | [] => some ⟨String.ofList feature, modifier, none⟩
    | ':' :: rest =>
      match skipGaps rest with
      | [] => none
      | value => some ⟨String.ofList feature, modifier, some (String.ofList (trim value))⟩
    | _ => none

end MediaQuery.Query
