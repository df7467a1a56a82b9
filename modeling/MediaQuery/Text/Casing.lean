import MediaQuery.Text.Character
import MediaQuery.Text.CaseTable

/-!
# Letter case

Full lower-casing and upper-casing of texts. A capital sigma becomes a final sigma when a cased
letter precedes it and none follows it, looking past what casing ignores.
-/

namespace MediaQuery.Text

/-- The image of a code point under the rows of a case table; itself if no row covers it. -/
def caseImage (rows : List (Nat × Nat × Nat × Int)) (n : Nat) : Nat :=
  match rows.find? fun row =>
      row.1 ≤ n && n ≤ row.2.1 && (n - row.1) % row.2.2.1 == 0 with
  | some row => (n + row.2.2.2).toNat
  | none => n

/-- The lower-case form of a character, without regard to its neighbours. -/
def lowerChar (c : Char) : List Char :=
  if 'A' ≤ c && c ≤ 'Z' then [Char.ofNat (c.toNat + 32)]
  else if c.toNat < 128 then [c]
  else
    match lowerSequences.lookup c.toNat with
    | some ns => ns.map Char.ofNat
    | none => [Char.ofNat (caseImage lowerRows c.toNat)]

/-- The upper-case form of a character. -/
def upperChar (c : Char) : List Char :=
  if 'a' ≤ c && c ≤ 'z' then [Char.ofNat (c.toNat - 32)]
  else if c.toNat < 128 then [c]
  else
    match upperSequences.lookup c.toNat with
    | some ns => ns.map Char.ofNat
    | none => [Char.ofNat (caseImage upperRows c.toNat)]

/-- Characters that casing looks past. -/
def isCaseIgnorable (c : Char) : Bool := inRanges caseIgnorableRanges c.toNat

/-- Cased letters, less those that casing looks past. -/
def isCased (c : Char) : Bool :=
  isAsciiLetter c || (128 ≤ c.toNat && inRanges casedRanges c.toNat)

/-- The first character that casing does not look past is a cased letter. -/
def startsCased (cs : List Char) : Bool :=
  match cs.dropWhile isCaseIgnorable with
  | c :: _ => isCased c
  | [] => false

/-- The capital sigma, the one letter whose lower-case form hangs on its neighbours. -/
def capitalSigma : Char := Char.ofNat 0x3A3

/--
The lower-case form of a text, where `afterCased` says whether the nearest character before it
that casing does not look past is a cased letter.
-/
def lowerFrom (afterCased : Bool) : List Char → List Char
  | [] => []
  | c :: cs =>
    let after := if isCaseIgnorable c then afterCased else isCased c
    if c = capitalSigma then
      Char.ofNat (if afterCased && !startsCased cs then 0x3C2 else 0x3C3) :: lowerFrom after cs
    else lowerChar c ++ lowerFrom after cs

/-- The lower-case form of a text. -/
def lower (cs : List Char) : List Char := lowerFrom false cs

/-- The upper-case form of a text. -/
def upper (cs : List Char) : List Char := cs.flatMap upperChar

end MediaQuery.Text
