import MediaQuery.Query.Clause

/-!
# Parsing query lists

A query list is split at its commas, whatever they stand in, and each part is read as a clause. The
first clause that cannot be read is the error of the whole list.
-/

namespace MediaQuery

open Text

/--
A query list that does not follow the grammar: the clause at fault, without comments and outer white
space, the whole list, and why the clause is no query.
-/
structure SyntaxError where
  clause : String
  query : String
  fault : Query.Fault
  deriving DecidableEq, Repr

/-- The text of the error. -/
def SyntaxError.message (e : SyntaxError) : String :=
  "Invalid CSS media query: \"" ++ e.clause ++ "\""

namespace QueryList

/--
The queries of some clauses, or the error of the first that is none; `query` is the whole list.
-/
def ofClauses (query : String) : List (List Char) → Except SyntaxError QueryList
  | [] => .ok []
  | raw :: raws =>
    let text := Query.clauseText raw
    match Query.readQuery text with
    | .error fault => .error ⟨String.ofList text, query, fault⟩
    | .ok q => (ofClauses query raws).map (q :: ·)

/-- The query list that a text spells. -/
def parse (query : String) : Except SyntaxError QueryList :=
  ofClauses query (splitOn ',' query.toList)

end QueryList

end MediaQuery
