import MediaQuery.Query.Comment
import MediaQuery.Query.Test

/-!
# Clauses

A clause is one query of a list as written: a media type with an optional `not` or `only`, or a
group, and then optionally `and` with a tail. Groups are looked for in the tail, and all other text
of the tail is passed over.
-/

namespace MediaQuery.Query

open Text

/-- How a clause starts: with a media type, after `not` if `inverse`, or with a group. -/
inductive Head where
  | typed (inverse : Bool) (name : List Char)
  | grouped (body : List Char)
  deriving DecidableEq, Repr

/-- The two parts of a clause: how it starts, and what follows `and`. -/
structure Clause where
  head : Head
  tail : Option (List Char)
  deriving DecidableEq, Repr

/-- The keyword before a media type, whether it is `not`, and what follows it. -/
def readKeyword (cs : List Char) : Bool × List Char :=
  match keyword? "not" continuesHead cs with
  | some rest => (true, rest)
  | none => (false, (keyword? "only" continuesHead cs).getD cs)

/-- A media type with its keyword; a keyword that can be read is never taken for the type. -/
def readTyped? (cs : List Char) : Option (Head × List Char) :=
  let (inverse, rest) := readKeyword (skipGaps cs)
  (name? startsType continuesType (skipGaps rest)).map fun (name, rest) =>
    (.typed inverse name, rest)

/-- A group. -/
def readGrouped? (cs : List Char) : Option (Head × List Char) :=
  match skipGaps cs with
  | '(' :: cs => (groupBody? cs).map fun (body, rest) => (.grouped body, rest)
  | _ => none

/-- The start of a clause. -/
def readHead? (cs : List Char) : Option (Head × List Char) :=
  (readTyped? cs).or (readGrouped? cs)

/-- The two parts of a clause; nothing may stand between the head and `and`, or after the head. -/
def readClause? (cs : List Char) : Option Clause :=
  match readHead? cs with
  | none => none
  | some (head, rest) =>
    match keyword? "and" continuesAnd (skipGaps rest) with
    | some tail => some ⟨head, some (skipGaps tail)⟩
    | none => if (skipGaps rest).isEmpty then some ⟨head, none⟩ else none

/-- The text of a clause in which groups are looked for: the leading group, then the tail. -/
def Clause.groupText (c : Clause) : List Char :=
  (match c.head with
    | .typed _ _ => []
    | .grouped body => ['('] ++ body ++ [')']) ++ c.tail.getD []

/-- The media type of a head in lower case, and whether the query is inverted. -/
def Head.type : Head → String × Bool
  | .typed inverse name => (String.ofList (lower name), inverse)
  | .grouped _ => ("all", false)

/--
Why a clause is no query: it or one of its tests does not follow the grammar, or there is text where
groups belong and no group in it.
-/
inductive Fault where
  | grammar
  | noGroup
  deriving DecidableEq, Repr

/-- The clause with comments removed and white space trimmed, as errors show it. -/
def clauseText (raw : List Char) : List Char := trim (dropComments raw)

/-- The tests of some groups, none if one of them is no test. -/
def readTests? : List (List Char) → Option (List FeatureTest)
  | [] => some []
  | body :: bodies =>
    match readTest? body with
    | some test => (readTests? bodies).map (test :: ·)
    | none => none

/-- The query that a clause text spells. -/
def readQuery (text : List Char) : Except Fault Query :=
  match readClause? (expandTabs 0 text) with
  | none => .error .grammar
  | some clause =>
    let (mediaType, inverse) := clause.head.type
    if clause.groupText.all isBlank then .ok ⟨mediaType, inverse, []⟩
    else
      match groups clause.groupText with
      | [] => .error .noGroup
      | bodies =>
        match readTests? bodies with
        | some tests => .ok ⟨mediaType, inverse, tests⟩
        | none => .error .grammar

end MediaQuery.Query
