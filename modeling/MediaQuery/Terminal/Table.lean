import MediaQuery.Number.Binary64
import MediaQuery.Terminal.Markup
import MediaQuery.Terminal.Wrap

/-!
# Tables and paragraphs

What is printed on a terminal of eighty columns: paragraphs of marked text, and tables with a
title, a heavy head and thin rows. A table is as wide as its content; if that is too wide, the
widest columns are made narrower until it fits, and their cells are broken between words.
-/

namespace MediaQuery.Terminal

open Text

/-- The columns of the terminal. -/
def screenWidth : Nat := 80

/-- Marked text as printed on its own lines. -/
def paragraph (s : String) : Except MarkupError String :=
  (shownText s).map fun cs =>
    String.ofList (((wrap true screenWidth cs).map fun line =>
      cropLine screenWidth line ++ ['\n']).flatten)

/--
A table of marked texts: the line above it, the head of each column, and the rows, with a cell for
each column.
-/
structure Table where
  title : String
  heads : List String
  rows : List (List String)

/-! ### Widths -/

/-- The sum of some widths. -/
def totalWidth : List Nat → Nat
  | [] => 0
  | w :: ws => w + totalWidth ws

/-- The columns that a cell takes besides its content. -/
def cellPadding : Nat := 2

/-- The widths that columns would like to have, of which none exceeds `limit`. -/
def wishedWidths (limit : Nat) (rows : List (List (List Char))) : List Nat :=
  match rows with
  | [] => []
  | [row] => row.map fun cell => min limit (widest cell + cellPadding)
  | row :: rows =>
    List.zipWith (fun cell w => max (min limit (widest cell + cellPadding)) w) row
      (wishedWidths limit rows)

/--
Takes `total` from the widths equal to `top`, sharing it evenly among the `count` of them that are
left, and no more than `most` from each.
-/
def takeEvenly (top most : Nat) : Nat → Nat → List Nat → List Nat
  | _, _, [] => []
  | total, count, w :: ws =>
    if w = top ∧ 0 < count then
      let share := min most (Binary64.roundQuotient total count)
      (w - share) :: takeEvenly top most (total - share) (count - 1) ws
    else w :: takeEvenly top most total count ws

/-- One round of narrowing: the widest columns approach the widths next to theirs. -/
def narrowOnce (limit : Nat) (widths : List Nat) : List Nat :=
  let excess := totalWidth widths - limit
  let top := widths.foldl max 0
  let second := (widths.filter (· != top)).foldl max 0
  takeEvenly top (min excess (top - second)) excess (widths.count top) widths

/-- Widths whose sum is at most `limit`, reached in at most `fuel` rounds. -/
def narrow (limit : Nat) : Nat → List Nat → List Nat
  | 0, widths => widths
  | fuel + 1, widths =>
    if totalWidth widths ≤ limit then widths else narrow limit fuel (narrowOnce limit widths)

/-- The widths of the columns of a table. -/
def columnWidths (rows : List (List (List Char))) : List Nat :=
  let limit := screenWidth - ((rows.head?.getD []).length + 1)
  let widths := wishedWidths limit rows
  narrow limit (totalWidth widths) widths

/-! ### Drawing -/

/-- A line of a table: a part for each column between three signs. -/
def tableLine (left middle right : Char) (parts : List (List Char)) : List Char :=
  [left] ++ joinWith [middle] parts ++ [right, '\n']

/-- A line across a table. -/
def ruler (left fill middle right : Char) (widths : List Nat) : List Char :=
  tableLine left middle right (widths.map fun w => List.replicate w fill)

/-- The lines of a cell in a column. -/
def cellLines (width : Nat) (cell : List Char) : List (List Char) :=
  let inner := width - cellPadding
  (wrap false inner cell).map fun line => [' '] ++ fitLine inner line ++ [' ']

/-- The lines of a row. -/
def rowLines (sign : Char) (widths : List Nat) (row : List (List Char)) : List Char :=
  let cells := List.zipWith cellLines widths row
  let height := cells.foldl (fun h lines => max h lines.length) 1
  ((List.range height).map fun i =>
    tableLine sign sign sign
      (List.zipWith (fun w lines => lines.getD i (spaces w)) widths cells)).flatten

/-- The lines of the title above a table of some width. -/
def titleLines (width : Nat) (title : List Char) : List Char :=
  ((wrap true width title).map fun line => centreLine width line ++ ['\n']).flatten

/-- A table of texts with the first row as its head. -/
def drawTable (title : List Char) (heads : List (List Char)) (rows : List (List (List Char))) :
    List Char :=
  let widths := columnWidths (heads :: rows)
  titleLines (totalWidth widths + widths.length + 1) title ++
    ruler '┏' '━' '┳' '┓' widths ++
    rowLines '┃' widths heads ++
    ruler '┡' '━' '╇' '┩' widths ++
    (rows.map (rowLines '│' widths)).flatten ++
    ruler '└' '─' '┴' '┘' widths

/-- A table as printed. -/
def Table.print (t : Table) : Except MarkupError String := do
  let title ← shownText t.title
  let heads ← t.heads.mapM shownText
  let rows ← t.rows.mapM fun row => row.mapM shownText
  return String.ofList (drawTable title heads rows)

end MediaQuery.Terminal
