import MediaQuery.Text.Character
import MediaQuery.Value

/-!
# Variable references

References to variables in the texts of a configuration tree. A reference is `$`, a name between
braces of which the opening one follows at once, and the name is any text without a closing brace
that is not empty. Each text is read once from left to right; what a variable brings in is not
read again, and keys are left alone.
-/

namespace MediaQuery

open Text

/-- Variables of the process by name. -/
abbrev Variables := List (String × String)

namespace Variables

/-- The value of a variable, empty if it is not set. -/
def value (vars : Variables) (name : String) : String := (vars.lookup name).getD ""

/-- The name of a reference and what follows it, for a text that stands after the opening brace. -/
def referenceName? (cs : List Char) : Option (List Char × List Char) :=
  match cs.takeWhile (· != '\x7d'), cs.dropWhile (· != '\x7d') with
  | c :: name, '\x7d' :: rest => some (c :: name, rest)
  | _, _ => none

/-- What follows a reference is shorter than the text that holds it. -/
theorem length_lt_of_referenceName? {cs name rest : List Char}
    (h : referenceName? cs = some (name, rest)) : rest.length < cs.length := by
  have hl := (List.dropWhile_suffix (l := cs) (· != '\x7d')).length_le
  unfold referenceName? at h
  split at h
  · rename_i hd
    cases h
    rw [hd] at hl
    simp only [List.length_cons] at hl
    omega
  · cases h

/-- The text with its references replaced by the values of their variables. -/
def expandText (vars : Variables) : List Char → List Char
  | [] => []
  | '$' :: '\x7b' :: cs =>
    match _h : referenceName? cs with
    | some (name, rest) => (vars.value (String.ofList name)).toList ++ expandText vars rest
    | none => '$' :: expandText vars ('\x7b' :: cs)
  | c :: cs => c :: expandText vars cs
termination_by cs => cs.length
decreasing_by
  · have := length_lt_of_referenceName? _h
    simp only [List.length_cons]; omega
  · simp only [List.length_cons]; omega
  · simp only [List.length_cons]; omega

mutual

/-- The tree with the references in its texts replaced. -/
def expand (vars : Variables) : Value → Value
  | .ofString s => .ofString (String.ofList (expandText vars s.toList))
  | .scalar s => .scalar s
  | .list items => .list (expandItems vars items)
  | .map entries => .map (expandEntries vars entries)

/-- The items of a list, each with its references replaced. -/
def expandItems (vars : Variables) : List Value → List Value
  | [] => []
  | v :: vs => expand vars v :: expandItems vars vs

/-- The entries of a mapping, each value with its references replaced. -/
def expandEntries (vars : Variables) : List (Scalar × Value) → List (Scalar × Value)
  | [] => []
  | e :: es => expandEntry vars e :: expandEntries vars es

/-- An entry of a mapping. -/
def expandEntry (vars : Variables) : Scalar × Value → Scalar × Value
  | (k, v) => (k, expand vars v)

end

end Variables

end MediaQuery
