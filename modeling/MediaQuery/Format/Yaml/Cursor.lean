import MediaQuery.Format.Yaml.Plain

/-!
# Scalars of a YAML document

A cursor is a text together with the line and the column where it stands. The functions here move
past gaps and comments and read the three kinds of scalars: plain ones, and those between single or
double quotes. A scalar may run over several lines; a single line break in it is a space, further
ones are kept.
-/

namespace MediaQuery.Yaml

open Text

/--
A place in a document: the text from here on, its line and its column, both counted from zero.
-/
structure Cursor where
  rest : List Char
  line : Nat
  column : Nat
  deriving DecidableEq, Repr

/-- Line breaks. -/
def isBreak (c : Char) : Bool :=
  c == '\n' || c == '\r' || c.toNat == 0x85 || c.toNat == 0x2028 || c.toNat == 0x2029

/-- Spaces, tabs and line breaks. -/
def isGap (c : Char) : Bool := c == ' ' || c == '\t' || isBreak c

/-- The text is at its end or at a gap. -/
def atGap (cs : List Char) : Bool := cs.head?.all isGap

/-- Characters that have a meaning of their own inside brackets. -/
def isFlowIndicator (c : Char) : Bool :=
  c == ',' || c == '[' || c == ']' || c == '\x7b' || c == '\x7d'

namespace Cursor

/-- The start of a document. -/
def start (cs : List Char) : Cursor := ⟨cs, 0, 0⟩

/-- The cursor after some characters of a line. -/
def forward (c : Cursor) (n : Nat) : Cursor := ⟨c.rest.drop n, c.line, c.column + n⟩

/-- The cursor after one character, on the next line if it is a line break. -/
def next (c : Cursor) : Cursor :=
  match c.rest with
  | [] => c
  | d :: ds => if isBreak d then ⟨ds, c.line + 1, 0⟩ else ⟨ds, c.line, c.column + 1⟩

/-- Three given characters at the start of a line, followed by a gap or the end. -/
def atMark (c : Cursor) (mark : String) : Bool :=
  c.column == 0 &&
    match afterStart? mark.toList c.rest with
    | some rest => atGap rest
    | none => false

/-- The start of another document or the end of this one. -/
def atMarker (c : Cursor) : Bool := c.atMark "---" || c.atMark "..."

/-- The next character that is not in a gap or a comment; `inComment` holds inside a comment. -/
def skipFrom (line column : Nat) (inComment : Bool) : List Char → Cursor
  | [] => ⟨[], line, column⟩
  | c :: cs =>
    if isBreak c then skipFrom (line + 1) 0 false cs
    else if inComment then skipFrom line (column + 1) true cs
    else if c = ' ' then skipFrom line (column + 1) false cs
    else if c = '#' then skipFrom line (column + 1) true cs
    else ⟨c :: cs, line, column⟩

/-- The next token. -/
def skip (c : Cursor) : Cursor := skipFrom c.line c.column false c.rest

/-- A given character, followed by a gap or the end. -/
def atIndicator (c : Cursor) (indicator : Char) : Bool :=
  match c.rest with
  | d :: ds => d == indicator && atGap ds
  | [] => false

end Cursor

/-! ### Folding -/

/-- The line break that a character stands for. -/
def breakOf (c : Char) : Char := if c.toNat == 0x2028 || c.toNat == 0x2029 then c else '\n'

/-- What line breaks stand for inside a scalar: one is a space, of several the first is dropped. -/
def fold : List Char → List Char
  | [] => []
  | first :: more =>
    if breakOf first ≠ '\n' then breakOf first :: more.map breakOf
    else if more.isEmpty then [' ']
    else more.map breakOf

/--
Blanks and line breaks from a cursor on: the line breaks, and the cursor after them. Only
characters that `isBlank` holds of are passed besides line breaks; a document marker ends the gap.
-/
def skipBreaks (isBlank : Char → Bool) : Nat → Cursor → List Char × Cursor
  | 0, c => ([], c)
  | fuel + 1, c =>
    match c.rest with
    | d :: _ =>
      if isBreak d then
        let after := c.next
        if after.atMarker then ([d], after)
        else
          let (breaks, last) := skipBreaks isBlank fuel after
          (d :: breaks, last)
      else if isBlank d then skipBreaks isBlank fuel c.next
      else ([], c)
    | [] => ([], c)

/-! ### Plain scalars -/

/-- The length of a run of a plain scalar: up to a gap, or a character that ends the scalar. -/
def plainRun (flow : Bool) : List Char → Nat
  | [] => 0
  | c :: cs =>
    if isGap c then 0
    else if c = ':' ∧ (atGap cs ∨ (flow ∧ cs.head?.any isFlowIndicator)) then 0
    else if flow ∧ (isFlowIndicator c ∨ c = '?') then 0
    else plainRun flow cs + 1

/--
The rest of a plain scalar, whose lines after the first start at column `least` or further right
unless it stands inside brackets; `gap` is the text between what was read and the cursor. The
result is the further text, and the cursor at the next token.
-/
def plainFrom (flow : Bool) (least : Nat) : Nat → List Char → Cursor → List Char × Cursor
  | 0, _, c => ([], c)
  | fuel + 1, gap, c =>
    let n := plainRun flow c.rest
    if n = 0 ∨ c.rest.head? = some '#' then ([], c)
    else
      let text := gap ++ c.rest.take n
      let c := c.forward n
      let blanks := c.rest.takeWhile (· == ' ')
      let c := c.forward blanks.length
      match c.rest with
      | d :: _ =>
        if isBreak d then
          let (breaks, after) := skipBreaks (· == ' ') (c.rest.length + 1) c
          if after.atMarker ∨ (!flow ∧ after.column < least) then (text, after)
          else
            let (more, last) := plainFrom flow least fuel (fold breaks) after
            (text ++ more, last)
        else if blanks.isEmpty then (text, c)
        else
          let (more, last) := plainFrom flow least fuel blanks c
          (text ++ more, last)
      | [] => (text, c)

/-- A plain scalar can start here. -/
def startsPlain (flow : Bool) (cs : List Char) : Bool :=
  match cs with
  | [] => false
  | c :: rest =>
    if c = '-' then !atGap rest
    else if c = '?' ∨ c = ':' then !flow && !atGap rest
    else !isGap c && !isFlowIndicator c && !"#&*!|>'\"%@\x60".toList.contains c

/-! ### Quoted scalars -/

/--
A gap inside quotes from a cursor on: what it stands for, and the cursor after it. A line break in
the gap drops the blanks on both sides of it; a document marker is an error.
-/
def quotedGap? (c : Cursor) : Option (List Char × Cursor) :=
  let blanks := c.rest.takeWhile fun d => d == ' ' || d == '\t'
  let after := c.forward blanks.length
  match after.rest with
  | d :: _ =>
    if isBreak d then
      let (breaks, last) :=
        skipBreaks (fun d => d == ' ' || d == '\t') (after.rest.length + 1) after
      if last.atMarker then none else some (fold breaks, last)
    else some (blanks, after)
  | [] => none

/-- The rest of a text between single quotes, in which a quote is written twice. -/
def singleFrom? : Nat → Cursor → Option (List Char × Cursor)
  | 0, _ => none
  | fuel + 1, c =>
    match c.rest with
    | '\'' :: '\'' :: _ => (singleFrom? fuel (c.forward 2)).map fun (text, c) => ('\'' :: text, c)
    | '\'' :: _ => some ([], c.forward 1)
    | d :: _ =>
      if isGap d then
        match quotedGap? c with
        | some (gap, c) => (singleFrom? fuel c).map fun (text, c) => (gap ++ text, c)
        | none => none
      else (singleFrom? fuel (c.forward 1)).map fun (text, c) => (d :: text, c)
    | [] => none

/-- Escapes of one letter between double quotes. -/
def letterEscapes : List (Char × Nat) := [
  ('0', 0), ('a', 7), ('b', 8), ('\t', 9), ('t', 9), ('n', 10), ('v', 11), ('f', 12), ('r', 13),
  ('e', 27), (' ', 32), ('"', 34), ('\\', 92), ('/', 47), ('N', 0x85), ('_', 0xA0), ('L', 0x2028),
  ('P', 0x2029)]

/-- Escapes with a number of hexadecimal digits. -/
def codeEscapes : List (Char × Nat) := [('x', 2), ('u', 4), ('U', 8)]

/-- The character of an escape and the length of the escape after the backslash. -/
def escape? (cs : List Char) : Option (Char × Nat) :=
  match cs with
  | [] => none
  | e :: rest =>
    match letterEscapes.lookup e with
    | some n => some (Char.ofNat n, 1)
    | none =>
      match codeEscapes.lookup e with
      | some width =>
        let ds := rest.take width
        if ds.length = width ∧ ds.all (fun d => (Json.hexValue? d).isSome) then
          some (Char.ofNat (digitsIn 16 ds), width + 1)
        else none
      | none => none

/-- The rest of a text between double quotes. -/
def doubleFrom? : Nat → Cursor → Option (List Char × Cursor)
  | 0, _ => none
  | fuel + 1, c =>
    match c.rest with
    | '"' :: _ => some ([], c.forward 1)
    | '\\' :: d :: _ =>
      if isBreak d then
        let (breaks, after) :=
          skipBreaks (fun d => d == ' ' || d == '\t') (c.rest.length + 1) (c.forward 1)
        if after.atMarker then none
        else
          (doubleFrom? fuel after).map fun (text, c) => ((breaks.drop 1).map breakOf ++ text, c)
      else
        match escape? (c.rest.drop 1) with
        | some (e, n) => (doubleFrom? fuel (c.forward (n + 1))).map fun (text, c) => (e :: text, c)
        | none => none
    | d :: _ =>
      if isGap d then
        match quotedGap? c with
        | some (gap, c) => (doubleFrom? fuel c).map fun (text, c) => (gap ++ text, c)
        | none => none
      else (doubleFrom? fuel (c.forward 1)).map fun (text, c) => (d :: text, c)
    | [] => none

end MediaQuery.Yaml
