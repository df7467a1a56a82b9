/-!
# Comments

A comment runs from an opener through the first closer whose star is not the star of the opener.
`dropComments` deletes the comments of a text from left to right and does not look again at what
the deletion joins.
-/

namespace MediaQuery.Query

/-- What follows the first closer of a comment. -/
def afterComment? : List Char → Option (List Char)
  | '*' :: '/' :: cs => some cs
  | _ :: cs => afterComment? cs
  | [] => none

/-- What follows a closer is shorter than the text that holds it. -/
theorem length_lt_of_afterComment? {cs rest : List Char} (h : afterComment? cs = some rest) :
    rest.length < cs.length := by
  fun_induction afterComment? cs with
  | case1 cs => cases h; simp only [List.length_cons]; omega
  | case2 c cs _ ih => have := ih h; simp only [List.length_cons]; omega
  | case3 => cases h

/-- The text without its comments; an opener that nothing closes stays, with all that follows. -/
def dropComments : List Char → List Char
  | '/' :: '*' :: cs =>
    match _h : afterComment? cs with
    | some rest => dropComments rest
    | none => '/' :: '*' :: cs
  | c :: cs => c :: dropComments cs
  | [] => []
termination_by cs => cs.length
decreasing_by
  · have := length_lt_of_afterComment? _h
    simp only [List.length_cons]; omega
  · simp only [List.length_cons]; omega

end MediaQuery.Query
