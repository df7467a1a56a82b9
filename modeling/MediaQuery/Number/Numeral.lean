import MediaQuery.Number.Binary64
import MediaQuery.Text.Character

/-!
# Numerals

Reading decimal numbers from text, with digits of any script. `Numeral.read?` reads the longest
numeral at the start of a text; `bareNumber?` reads a text that is a number as a whole and then also
takes underscores between digits and the names of infinity and NaN. White space around a number is
taken away before: all of it by `number?`, and all but the ASCII separators by `unpadded`.
-/

namespace MediaQuery

open Text

/-- The number `± mantissa * 10 ^ exponent` as written, all its digits in one natural number. -/
structure Numeral where
  negative : Bool
  mantissa : Nat
  exponent : Int
  deriving DecidableEq, Repr

namespace Numeral

/-- The most decimal digits that integers are read from and written with, leading zeros included. -/
def digitLimit : Nat := 4300

/-- What is said of an integer with more digits; those of a text are counted. -/
def limitMessage (count : Option Nat) : String :=
  "Exceeds the limit (" ++ toString digitLimit ++ " digits) for integer string conversion" ++
    (match count with
      | some n => ": value has " ++ toString n ++ " digits"
      | none => "") ++
    "; use sys.set_int_max_str_digits() to increase the limit"

/-- The natural number that digits spell. -/
def digitsValue (ds : List Char) : Nat :=
  ds.foldl (fun n c => 10 * n + (digitValue? c).getD 0) 0

/-- An optional sign, and whether it is a minus. -/
def readSign : List Char → Bool × List Char
  | '-' :: cs => (true, cs)
  | '+' :: cs => (false, cs)
  | cs => (false, cs)

/-- An exponent part, zero if there is none: the letter, an optional sign and at least a digit. -/
def readExponent (cs : List Char) : Int × List Char :=
  match cs with
  | [] => (0, [])
  | e :: rest =>
    if e = 'e' ∨ e = 'E' then
      let (negative, rest) := readSign rest
      let ds := rest.takeWhile isDigit
      if ds.isEmpty then (0, cs)
      else (if negative then -digitsValue ds else digitsValue ds, rest.dropWhile isDigit)
    else (0, cs)

/-- The longest numeral at the start of a text and what follows it. -/
def read? (cs : List Char) : Option (Numeral × List Char) :=
  let (negative, cs) := readSign cs
  let whole := cs.takeWhile isDigit
  let rest := cs.dropWhile isDigit
  let (fraction, rest) :=
    match rest with
    | '.' :: tail => (tail.takeWhile isDigit, tail.dropWhile isDigit)
    | _ => ([], rest)
  if whole.isEmpty && fraction.isEmpty then none
  else
    let (exponent, rest) := readExponent rest
    some (⟨negative, digitsValue (whole ++ fraction), exponent - fraction.length⟩, rest)

/-- The number nearest to a numeral. -/
def value (n : Numeral) : Binary64 := Binary64.ofDecimal n.negative n.mantissa n.exponent

end Numeral

/-- ASCII letters in lower case, other characters as they are. -/
def asciiLower (c : Char) : Char := if 'A' ≤ c && c ≤ 'Z' then Char.ofNat (c.toNat + 32) else c

/-- The number that a text without blanks and underscores is as a whole. -/
def plainNumber? (cs : List Char) : Option Binary64 :=
  let (negative, name) := Numeral.readSign cs
  let name := String.ofList (name.map asciiLower)
  if name = "inf" ∨ name = "infinity" then some (.infinity negative)
  else if name = "nan" then some .nan
  else
    match Numeral.read? cs with
    | some (n, []) => some n.value
    | _ => none

/-- The text without its underscores, if each of them stands between two digits. -/
def dropUnderscores? (afterDigit : Bool) : List Char → Option (List Char)
  | [] => some []
  | '_' :: cs =>
    if afterDigit && (cs.head?.any isDigit) then dropUnderscores? false cs else none
  | c :: cs => (dropUnderscores? (isDigit c) cs).map (c :: ·)

/-- The number that a text is as a whole, with nothing around it. -/
def bareNumber? (cs : List Char) : Option Binary64 :=
  (dropUnderscores? false cs).bind plainNumber?

/-- The number that a text is as a whole, white space around it aside. -/
def number? (cs : List Char) : Option Binary64 := bareNumber? (trim cs)

/-- White space that may stand around a number; the ASCII separators may not. -/
def isPadding (c : Char) : Bool := isBlank c && !(28 ≤ c.toNat && c.toNat ≤ 31)

/-- A text without such white space at either end. -/
def unpadded (cs : List Char) : List Char :=
  ((cs.dropWhile isPadding).reverse.dropWhile isPadding).reverse

end MediaQuery
