import MediaQuery.Text.Character
import MediaQuery.Text.WidthTable

/-!
# Columns of a text

How many columns of a terminal characters and texts take, and cutting a text to a number of them.
-/

namespace MediaQuery.Text

/-- The columns of a character: none, one or two. -/
def columnsOf (c : Char) : Nat :=
  let n := c.toNat
  if 32 ≤ n && n < 127 then 1
  else if inRanges zeroWidthRanges n then 0
  else if inRanges doubleWidthRanges n then 2
  else 1

/-- The columns of a text. -/
def columns : List Char → Nat
  | [] => 0
  | c :: cs => columnsOf c + columns cs

/-- Spaces. -/
def spaces (n : Nat) : List Char := List.replicate n ' '

/-- The start of a text that takes `width` columns; a wide character that is cut becomes a space. -/
def cutTo : Nat → List Char → List Char
  | _, [] => []
  | 0, _ => []
  | width + 1, c :: cs =>
    match columnsOf c with
    | 0 => c :: cutTo (width + 1) cs
    | 1 => c :: cutTo width cs
    | _ => if width = 0 then [' '] else c :: cutTo (width - 1) cs

/-- A text cut or filled with spaces to exactly `width` columns. -/
def fitTo (width : Nat) (cs : List Char) : List Char :=
  if columns cs ≤ width then cs ++ spaces (width - columns cs) else cutTo width cs

end MediaQuery.Text
