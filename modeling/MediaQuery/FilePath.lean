import MediaQuery.Text.Character

/-!
# File paths

A path in normal form: no empty steps and no steps to the same place. Steps upwards stay.
-/

namespace MediaQuery

open Text

/-- The start of an absolute path; exactly two slashes are kept apart from all other numbers. -/
def pathRoot : List Char → List Char
  | '/' :: '/' :: '/' :: _ => ['/']
  | '/' :: '/' :: _ => ['/', '/']
  | '/' :: _ => ['/']
  | _ => []

/-- The normal form of a path; the empty path is the current place. -/
def normalizePath (path : String) : String :=
  let steps := (splitOn '/' path.toList).filter fun s => !s.isEmpty && s != ['.']
  let text := pathRoot path.toList ++ joinWith ['/'] steps
  if text.isEmpty then "." else String.ofList text

/-- Files by the normal form of their paths. -/
abbrev Files := List (String × String)

/-- The text of a file. -/
def Files.read? (files : Files) (path : String) : Option String :=
  (files.find? fun f => normalizePath f.1 == normalizePath path).map (·.2)

end MediaQuery
