import MediaQuery.Text.Character

/-!
# Tokens of a query

Recognisers for the parts that clauses and tests are made of. Each takes the text at which a token
may start and gives back what follows the token; between tokens only plain gaps are skipped, not
all white space.
-/

namespace MediaQuery.Query

open Text

/-! ### Gaps -/

/--
Tabs as spaces up to the next multiple of eight columns; columns start anew after a line feed or a
carriage return.
-/
def expandTabs (column : Nat) : List Char → List Char
  | [] => []
  | c :: cs =>
    if c = '\t' then
      let width := 8 - column % 8
      List.replicate width ' ' ++ expandTabs (column + width) cs
    else if c = '\n' ∨ c = '\r' then c :: expandTabs 0 cs
    else c :: expandTabs (column + 1) cs

/-- Characters that may stand between tokens. -/
def isGap (c : Char) : Bool := c == ' ' || c == '\n' || c == '\t' || c == '\r'

/-- The text from the next token on. -/
def skipGaps (cs : List Char) : List Char := cs.dropWhile isGap

/-! ### Keywords -/

/-- What follows a lower-case word at the start of a text, the letters in any case. -/
def afterWord? : List Char → List Char → Option (List Char)
  | [], cs => some cs
  | p :: ps, c :: cs => if c = p ∨ c = Char.ofNat (p.toNat - 32) then afterWord? ps cs else none
  | _ :: _, [] => none

/-- What follows a keyword: the word must not be continued by a character of a longer word. -/
def keyword? (word : String) (continues : Char → Bool) (cs : List Char) : Option (List Char) :=
  match afterWord? word.toList cs with
  | some (c :: rest) => if continues c then none else some (c :: rest)
  | other => other

/--
Characters that make `not` and `only` the start of a longer word: the letters of Latin-1 and those
that share their upper-case forms, the underscore and the hyphen. Digits are not among them.
-/
def continuesHead (c : Char) : Bool :=
  let n := c.toNat
  isAsciiLetter c || c == '_' || c == '-' ||
    (0xC0 ≤ n && n ≤ 0xFF && n != 0xD7 && n != 0xDF && n != 0xF7) ||
    [0xAA, 0xB5, 0xBA, 0x131, 0x178, 0x17F, 0x39C, 0x3BC].contains n

/--
Characters that make `and` the start of a longer word: ASCII letters and digits, the underscore,
the dollar sign, and the letters whose upper-case forms are I and S.
-/
def continuesAnd (c : Char) : Bool :=
  isAsciiLetter c || isAsciiDigit c || c == '_' || c == '$' || c.toNat == 0x131 || c.toNat == 0x17F

/-! ### Names and groups -/

/-- The start of a media type. -/
def startsType (c : Char) : Bool := isCaselessLetter c || c == '_'

/-- A further character of a media type. -/
def continuesType (c : Char) : Bool := isWord c || c == '-'

/-- The start of a feature name. -/
def startsFeature (c : Char) : Bool := isCaselessLetter c || c == '_' || c == '-'

/-- A further character of a feature name. -/
def continuesFeature (c : Char) : Bool := startsFeature c || isAsciiDigit c

/-- The longest name at the start of a text, by its first and its further characters. -/
def name? (starts continues : Char → Bool) : List Char → Option (List Char × List Char)
  | c :: cs => if starts c then some (c :: cs.takeWhile continues, cs.dropWhile continues) else none
  | [] => none

/--
The body of a group and what follows the group, for a text that stands after an opening
parenthesis. The body ends at the first closing parenthesis and is not empty.
-/
def groupBody? (cs : List Char) : Option (List Char × List Char) :=
  match cs.takeWhile (· != ')'), cs.dropWhile (· != ')') with
  | c :: body, ')' :: rest => some (c :: body, rest)
  | _, _ => none

/-- What follows a group is shorter than the text that holds it. -/
theorem length_lt_of_groupBody? {cs body rest : List Char}
    (h : groupBody? cs = some (body, rest)) : rest.length < cs.length := by
  have hl := (List.dropWhile_suffix (l := cs) (· != ')')).length_le
  unfold groupBody? at h
  split at h
  · rename_i hd
    cases h
    rw [hd] at hl
    simp only [List.length_cons] at hl
    omega
  · cases h

/--
The bodies of the groups of a text from left to right. An opening parenthesis that starts no group
is passed over, as is all other text.
-/
def groups : List Char → List (List Char)
  | [] => []
  | c :: cs =>
    if c = '(' then
      match _h : groupBody? cs with
      | some (body, rest) => body :: groups rest
      | none => groups cs
    else groups cs
termination_by cs => cs.length
decreasing_by
  · have := length_lt_of_groupBody? _h
    simp only [List.length_cons]; omega
  · simp only [List.length_cons]; omega
  · simp only [List.length_cons]; omega

end MediaQuery.Query
