import MediaQuery.Terminal.Emoji
import MediaQuery.Text.Casing
import MediaQuery.Text.Character

/-!
# Marked text

Text for a terminal can hold tags in brackets that say how it looks. Tags are not shown, and a
backslash in front of a tag makes it text. A closing tag needs an open tag of its name, or any open
tag if it has no name. Emoji codes in the text between tags are replaced.

* `escapeMarkup` turns a text into marked text in which no tag is left;
* `shownText` is what marked text shows.
-/

namespace MediaQuery.Terminal

open Text

/-- A closing tag that closes nothing, and where it stands. -/
structure MarkupError where
  tag : String
  position : Nat
  deriving DecidableEq, Repr

/-- The text of the error. -/
def MarkupError.message (e : MarkupError) : String :=
  "closing tag '" ++ e.tag ++ "' at position " ++ toString e.position ++
    (if e.tag = "[/]" then " has nothing to close" else " doesn't match any open tag")

/-! ### Tags -/

/-- The first character of a tag. -/
def startsTag (c : Char) : Bool := ('a' ≤ c && c ≤ 'z') || c == '#' || c == '/' || c == '@'

/-- The inside of a tag at the start of a text, and what follows the tag. -/
def tagAt? : List Char → Option (List Char × List Char)
  | '[' :: c :: cs =>
    if startsTag c then
      match cs.dropWhile fun d => d != ']' && d != '[' with
      | ']' :: rest => some (c :: cs.takeWhile fun d => d != ']' && d != '[', rest)
      | _ => none
    else none
  | _ => none

/-- What follows a tag is shorter than the text that holds it. -/
theorem length_lt_of_tagAt? {cs tag rest : List Char} (h : tagAt? cs = some (tag, rest)) :
    rest.length < cs.length := by
  unfold tagAt? at h
  split at h
  · rename_i c cs
    have hl := (List.dropWhile_suffix (l := cs) (fun d => d != ']' && d != '[')).length_le
    split at h
    · split at h
      · rename_i hd
        cases h
        rw [hd] at hl
        simp only [List.length_cons] at hl ⊢
        omega
      · cases h
    · cases h
  · cases h

/--
A part of a marked text: a character outside tags, or a tag with the number of backslashes in front
of it.
-/
inductive Piece where
  | char (c : Char)
  | tag (backslashes : Nat) (inside : List Char)
  deriving DecidableEq, Repr

/-- The parts of a marked text. -/
def pieces : List Char → List Piece
  | [] => []
  | c :: cs =>
    match _h : tagAt? ((c :: cs).dropWhile (· == '\\')) with
    | some (inside, rest) =>
      .tag ((c :: cs).takeWhile (· == '\\')).length inside :: pieces rest
    | none => .char c :: pieces cs
termination_by cs => cs.length
decreasing_by
  · have := length_lt_of_tagAt? _h
    have := (List.dropWhile_suffix (l := c :: cs) (· == '\\')).length_le
    omega
  · simp only [List.length_cons]; omega

/-! ### Escaping -/

/-- A number of backslashes. -/
def backslashes (n : Nat) : List Char := List.replicate n '\\'

/-- A part of a text as part of a marked text that shows it. -/
def Piece.escaped : Piece → List Char
  | .char c => [c]
  | .tag n inside => backslashes (2 * n + 1) ++ ['['] ++ inside ++ [']']

/-- A single backslash at the end is doubled, lest it escapes a tag that follows. -/
def guardEnd (cs : List Char) : List Char :=
  match cs.reverse with
  | '\\' :: '\\' :: _ => cs
  | '\\' :: _ => cs ++ ['\\']
  | _ => cs

/-- A text as marked text without tags. -/
def escapeMarkup (s : String) : String :=
  String.ofList (guardEnd ((pieces s.toList).flatMap Piece.escaped))

/-! ### Showing -/

/-- A text in which each backslash before an opening bracket is dropped. -/
def unescape : List Char → List Char
  | '\\' :: '[' :: cs => '[' :: unescape cs
  | c :: cs => c :: unescape cs
  | [] => []

/-- What is shown of a text between tags. -/
def showText (cs : List Char) : List Char := withEmoji (unescape cs)

/-- The name of a tag, without what follows an equals sign. -/
def tagName (inside : List Char) : List Char := lower (trim (inside.takeWhile (· != '=')))

/-- The open tags after a closing tag, none if it closes nothing. -/
def close? (opened : List (List Char)) (name : List Char) : Option (List (List Char)) :=
  if name.isEmpty then
    match opened with
    | [] => none
    | _ :: opened => some opened
  else if opened.contains name then some (opened.erase name)
  else none

/-- A closing tag as errors show it. -/
def closingText (inside : List Char) : String :=
  if (tagName (inside.drop 1)).isEmpty then "[/]" else String.ofList (['['] ++ inside ++ [']'])

/--
What is shown of the parts of a marked text: `position` is where they stand, `opened` holds the
open tags, the newest first, and `text` the characters since the last tag in reverse.
-/
def showPieces (position : Nat) (opened : List (List Char)) (text : List Char) :
    List Piece → Except MarkupError (List Char)
  | [] => .ok (showText text.reverse)
  | .char c :: ps => showPieces (position + 1) opened (c :: text) ps
  | .tag n inside :: ps =>
    let next := position + n + inside.length + 2
    let before := showText text.reverse ++ backslashes (n / 2)
    if n % 2 = 1 then
      (showPieces next opened [] ps).map fun rest =>
        before ++ showText (['['] ++ inside ++ [']']) ++ rest
    else
      match inside with
      | '/' :: name =>
        match close? opened (tagName name) with
        | some opened => (showPieces next opened [] ps).map fun rest => before ++ rest
        | none => .error ⟨closingText inside, position + n⟩
      | inside => (showPieces next (tagName inside :: opened) [] ps).map fun rest => before ++ rest

/-- Characters that are never shown: bell, backspace, tabs and feeds between lines and pages. -/
def isControl (c : Char) : Bool := [7, 8, 11, 12, 13].contains c.toNat

/-- The text that marked text shows. -/
def shownText (s : String) : Except MarkupError (List Char) :=
  let cs := s.toList
  let shown := if cs.contains '[' then showPieces 0 [] [] (pieces cs) else .ok (withEmoji cs)
  shown.map fun cs => cs.filter fun c => !isControl c

end MediaQuery.Terminal
