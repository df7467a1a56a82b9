import MediaQuery.Text.Columns

/-!
# Breaking lines

Texts are broken between words where they are wider than a terminal or a cell. A word goes to the
next line with the white space after it. A word that is too wide for any line is either folded over
several lines or left for the caller to cut.
-/

namespace MediaQuery.Terminal

open Text

/-! ### Words -/

/-- The words of a text, each with the white space after it, the first also with that before it. -/
def words (cs : List Char) : List (List Char) :=
  match _h : cs.dropWhile isBlank with
  | [] => []
  | c :: more =>
    let after := more.dropWhile fun d => !isBlank d
    (cs.takeWhile isBlank ++ c :: more.takeWhile (fun d => !isBlank d) ++
        after.takeWhile isBlank) ::
      words (after.dropWhile isBlank)
termination_by cs.length
decreasing_by
  have h₁ := (List.dropWhile_suffix (l := cs) isBlank).length_le
  have h₂ := (List.dropWhile_suffix (l := more) fun d => !isBlank d).length_le
  have h₃ := (List.dropWhile_suffix (l := more.dropWhile fun d => !isBlank d) isBlank).length_le
  rw [_h] at h₁
  simp only [List.length_cons] at h₁
  omega

/-- A text in parts of at most `width` columns; `line` is the part at hand in reverse. -/
def chopFrom (width : Nat) (line : List Char) (used : Nat) : List Char → List (List Char)
  | [] => [line.reverse]
  | c :: cs =>
    if width < used + columnsOf c then line.reverse :: chopFrom width [c] (columnsOf c) cs
    else chopFrom width (c :: line) (used + columnsOf c) cs

/-- A text in parts of at most `width` columns, unless a single character is wider. -/
def chop (width : Nat) (cs : List Char) : List (List Char) := chopFrom width [] 0 cs

/-! ### Lines -/

/-- A line and more lines after it; nothing at the very start is no line. -/
def afterLine (isFirst : Bool) (line : List Char) (lines : List (List Char)) : List (List Char) :=
  if isFirst then lines else line :: lines

/--
The lines that words fall into. `line` is the line at hand, `used` how many columns of it are used,
and `isFirst` holds before the first word.
-/
def breakWords (fold : Bool) (width : Nat) :
    Bool → List Char → Nat → List (List Char) → List (List Char)
  | _, line, _, [] => [line]
  | isFirst, line, used, word :: more =>
    let size := columns (trimRight word)
    if used + size ≤ width then
      breakWords fold width false (line ++ word) (used + columns word) more
    else if width < size then
      if fold then
        let parts := chop width word
        let last := parts.getLast?.getD []
        afterLine isFirst line
          (parts.dropLast ++ breakWords fold width false last (columns last) more)
      else afterLine isFirst line (breakWords fold width false word (columns word) more)
    else afterLine isFirst line (breakWords fold width false word (columns word) more)

/-- A text broken into lines of at most `width` columns, but for white space at their ends. -/
def breakLine (fold : Bool) (width : Nat) (cs : List Char) : List (List Char) :=
  match words cs with
  | [] => [cs]
  | ws => breakWords fold width true [] 0 ws

/-- A line without as much of the white space at its end as it has characters too many. -/
def dropExcess (width : Nat) (line : List Char) : List Char :=
  let blanks := (line.reverse.takeWhile isBlank).length
  line.take (line.length - min blanks (line.length - width))

/-- Tabs as spaces up to the next multiple of eight columns. -/
def spreadTabs (column : Nat) : List Char → List Char
  | [] => []
  | c :: cs =>
    if c = '\t' then
      let width := 8 - column % 8
      spaces width ++ spreadTabs (column + width) cs
    else c :: spreadTabs (column + columnsOf c) cs

/-- The lines of a text, each broken further to fit a width. -/
def wrap (fold : Bool) (width : Nat) (cs : List Char) : List (List Char) :=
  (splitOn '\n' cs).flatMap fun line =>
    (breakLine fold width (spreadTabs 0 line)).map (dropExcess width)

/-! ### Fitting lines -/

/-- The sign that a text goes on. -/
def ellipsis : Char := '…'

/-- A line cut to at most `width` columns. -/
def cropLine (width : Nat) (line : List Char) : List Char :=
  if width < columns line then fitTo width line else line

/-- A line of exactly `width` columns: filled with spaces, or cut with a sign that it goes on. -/
def fitLine (width : Nat) (line : List Char) : List Char :=
  if width < columns line then fitTo (width - 1) line ++ [ellipsis]
  else line ++ spaces (width - columns line)

/-- A line in the middle of exactly `width` columns. -/
def centreLine (width : Nat) (line : List Char) : List Char :=
  let line := cropLine width (trimRight line)
  let line := spaces ((width - columns line) / 2) ++ line
  line ++ spaces (width - columns line)

/-- The columns of the widest line of a text. -/
def widest (cs : List Char) : Nat := (lineParts cs).foldl (fun w line => max w (columns line)) 0
where
  /-- The parts of a text between characters that end a line. -/
  lineParts (cs : List Char) : List (List Char) :=
    splitOn '\n' (cs.map fun c => if endsLine c then '\n' else c)
  /-- Characters that end a line. -/
  endsLine (c : Char) : Bool :=
    c == '\n' || (28 ≤ c.toNat && c.toNat ≤ 30) || c.toNat == 0x85 || c.toNat == 0x2028 ||
      c.toNat == 0x2029

end MediaQuery.Terminal
