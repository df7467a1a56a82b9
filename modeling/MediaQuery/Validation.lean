/-!
# Validation issues

What is wrong with a configuration or an environment that was given as a tree, and where.
-/

namespace MediaQuery

/-- One step into a tree: to the entry of a key, or to that of an integer key. -/
inductive Place where
  | key (name : String)
  | index (i : Int)
  deriving DecidableEq, Repr

/--
What is wrong with a part of a tree: it is not of the kind expected, it is a text that spells no
number, a number that is not above its lower bound or is above its upper one, a key that is not a
text, or none of the allowed values, with the reason.
-/
inductive Complaint where
  | notRecord
  | notMapping
  | notText
  | notInteger
  | notNumber
  | unreadableNumber
  | tooSmall
  | tooLarge
  | notPath
  | invalidKey
  | rejected (reason : String)
  deriving DecidableEq, Repr

/-- The code word of a complaint. -/
def Complaint.code : Complaint → String
  | .notRecord => "model_type"
  | .notMapping => "dict_type"
  | .notText => "string_type"
  | .notInteger => "int_type"
  | .notNumber => "float_type"
  | .unreadableNumber => "float_parsing"
  | .tooSmall => "greater_than"
  | .tooLarge => "less_than_equal"
  | .notPath => "path_type"
  | .invalidKey => "invalid_key"
  | .rejected _ => "value_error"

/-- The message of a rejected value. -/
def Complaint.message? : Complaint → Option String
  | .rejected reason => some ("Value error, " ++ reason)
  | _ => none

/-- What is wrong, and the way from the root of the tree to where it is. -/
structure Issue where
  place : List Place
  complaint : Complaint
  deriving DecidableEq, Repr

/-- The issue seen from one step further up. -/
def Issue.under (step : Place) (issue : Issue) : Issue := ⟨step :: issue.place, issue.complaint⟩

/-- A value, or the issues that stand in its way, of which there is at least one. -/
abbrev Checked (α : Type) := Except (List Issue) α

namespace Checked

variable {α β : Type}

/-- A single complaint about the root. -/
def fail (complaint : Complaint) : Checked α := .error [⟨[], complaint⟩]

/-- The issues seen from one step further up. -/
def under (step : Place) : Checked α → Checked α
  | .ok a => .ok a
  | .error issues => .error (issues.map (Issue.under step))

/-- Two results together, or the issues of both. -/
def both : Checked α → Checked β → Checked (α × β)
  | .ok a, .ok b => .ok (a, b)
  | .ok _, .error issues => .error issues
  | .error issues, .ok _ => .error issues
  | .error first, .error second => .error (first ++ second)

/-- The results of a list, or the issues of all its items. -/
def all : List (Checked α) → Checked (List α)
  | [] => .ok []
  | c :: cs => (both c (all cs)).map fun p => p.1 :: p.2

end Checked

end MediaQuery
