import MediaQuery.Number.Numeral
import MediaQuery.Value

/-!
# JSON

Reading and writing values as JSON. The reader takes one value with white space around it and also
knows the names of NaN and the infinities; a key given twice keeps its first place and its last
value. The writer uses ASCII only, on one line or with one item per line.
-/

namespace MediaQuery.Json

open Text

/-! ### Reading -/

/-- White space of JSON. -/
def isSpace (c : Char) : Bool := c == ' ' || c == '\t' || c == '\n' || c == '\r'

/-- The text from the next token on. -/
def skipSpace (cs : List Char) : List Char := cs.dropWhile isSpace

/-- The value of a hexadecimal digit. -/
def hexValue? (c : Char) : Option Nat :=
  if '0' ≤ c && c ≤ '9' then some (c.toNat - 48)
  else if 'a' ≤ c && c ≤ 'f' then some (c.toNat - 87)
  else if 'A' ≤ c && c ≤ 'F' then some (c.toNat - 55)
  else none

/-- Four hexadecimal digits. -/
def readUnit? : List Char → Option (Nat × List Char)
  | a :: b :: c :: d :: rest => do
    let a ← hexValue? a
    let b ← hexValue? b
    let c ← hexValue? c
    let d ← hexValue? d
    return (((a * 16 + b) * 16 + c) * 16 + d, rest)
  | _ => none

/-- The character of one or two code units; half of a pair alone becomes the replacement sign. -/
def charOfUnit (unit : Nat) (rest : List Char) : Char × List Char :=
  if 0xD800 ≤ unit ∧ unit < 0xDC00 then
    match rest with
    | '\\' :: 'u' :: more =>
      match readUnit? more with
      | some (low, after) =>
        if 0xDC00 ≤ low ∧ low < 0xE000 then
          (Char.ofNat (0x10000 + (unit - 0xD800) * 0x400 + (low - 0xDC00)), after)
        else (Char.ofNat 0xFFFD, rest)
      | none => (Char.ofNat 0xFFFD, rest)
    | _ => (Char.ofNat 0xFFFD, rest)
  else if 0xDC00 ≤ unit ∧ unit < 0xE000 then (Char.ofNat 0xFFFD, rest)
  else (Char.ofNat unit, rest)

/-- The character of a one-letter escape. -/
def simpleEscape? : Char → Option Char
  | '"' => some '"'
  | '\\' => some '\\'
  | '/' => some '/'
  | 'b' => some (Char.ofNat 8)
  | 'f' => some (Char.ofNat 12)
  | 'n' => some '\n'
  | 'r' => some '\r'
  | 't' => some '\t'
  | _ => none

/-- The rest of a string after its opening quote; `acc` holds its characters in reverse. -/
def readString? : Nat → List Char → List Char → Option (String × List Char)
  | 0, _, _ => none
  | fuel + 1, acc, cs =>
    match cs with
    | '"' :: rest => some (String.ofList acc.reverse, rest)
    | '\\' :: 'u' :: rest => do
      let (unit, rest) ← readUnit? rest
      let (c, rest) := charOfUnit unit rest
      readString? fuel (c :: acc) rest
    | '\\' :: e :: rest => do
      let c ← simpleEscape? e
      readString? fuel (c :: acc) rest
    | c :: rest => if c.toNat < 32 then none else readString? fuel (c :: acc) rest
    | [] => none

/-- The digits after a decimal point, if a digit follows the point. -/
def fractionDigits (cs : List Char) : Option (List Char × List Char) :=
  match cs with
  | '.' :: rest =>
    let ds := rest.takeWhile isAsciiDigit
    if ds.isEmpty then none else some (ds, rest.dropWhile isAsciiDigit)
  | _ => none

/-- An exponent, if there is a complete one. -/
def exponentValue? (cs : List Char) : Option (Int × List Char) :=
  match cs with
  | e :: rest =>
    if e = 'e' ∨ e = 'E' then
      let (negative, rest) := Numeral.readSign rest
      let ds := rest.takeWhile isAsciiDigit
      if ds.isEmpty then none
      else
        let n : Int := Numeral.digitsValue ds
        some (if negative then -n else n, rest.dropWhile isAsciiDigit)
    else none
  | [] => none

/-- A number; without fraction and exponent it is an integer, which may not have too many digits. -/
def readNumber? (cs : List Char) : Option (Scalar × List Char) :=
  let (negative, cs) :=
    match cs with
    | '-' :: rest => (true, rest)
    | _ => (false, cs)
  let run := cs.takeWhile isAsciiDigit
  let (whole, rest) :=
    match run with
    | '0' :: _ => (['0'], cs.drop 1)
    | _ => (run, cs.dropWhile isAsciiDigit)
  if whole.isEmpty then none
  else
    let (fraction, afterFraction) := (fractionDigits rest).getD ([], rest)
    let (exponent, afterExponent) := (exponentValue? afterFraction).getD (0, afterFraction)
    if fraction.isEmpty && (exponentValue? afterFraction).isNone then
      let n : Int := Numeral.digitsValue whole
      if Numeral.digitLimit < whole.length then none
      else some (.int (if negative then -n else n), rest)
    else
      let mantissa := Numeral.digitsValue (whole ++ fraction)
      some (.float (Binary64.ofDecimal negative mantissa (exponent - fraction.length)),
        afterExponent)

/-- The scalars that are written as names. -/
def names : List (String × Scalar) := [
  ("null", .null), ("true", .bool true), ("false", .bool false), ("NaN", .float .nan),
  ("Infinity", .float (.infinity false)), ("-Infinity", .float (.infinity true))]

/-- A scalar written as a name. -/
def readName? (cs : List Char) : Option (Scalar × List Char) :=
  names.findSome? fun (name, s) => (afterStart? name.toList cs).map fun rest => (s, rest)

mutual

/-- A value at the start of a text that has no white space in front. -/
def readValue? : Nat → List Char → Option (Value × List Char)
  | 0, _ => none
  | fuel + 1, cs =>
    match cs with
    | '"' :: rest =>
      (readString? (rest.length + 1) [] rest).map fun (s, rest) => (.ofString s, rest)
    | '[' :: rest =>
      match skipSpace rest with
      | ']' :: rest => some (.list [], rest)
      | rest => (readItems? fuel rest).map fun (items, rest) => (.list items, rest)
    | '\x7b' :: rest =>
      match skipSpace rest with
      | '\x7d' :: rest => some (.map [], rest)
      | rest => (readEntries? fuel rest).map fun (es, rest) => (.map (Entries.ofList es), rest)
    | _ =>
      match readName? cs with
      | some (s, rest) => some (.scalar s, rest)
      | none => (readNumber? cs).map fun (s, rest) => (.scalar s, rest)

/-- The items of a list and its end. -/
def readItems? : Nat → List Char → Option (List Value × List Char)
  | 0, _ => none
  | fuel + 1, cs =>
    match readValue? fuel cs with
    | none => none
    | some (v, rest) =>
      match skipSpace rest with
      | ']' :: rest => some ([v], rest)
      | ',' :: rest => (readItems? fuel (skipSpace rest)).map fun (vs, rest) => (v :: vs, rest)
      | _ => none

/-- The entries of an object and its end. -/
def readEntries? : Nat → List Char → Option (List (Scalar × Value) × List Char)
  | 0, _ => none
  | fuel + 1, cs =>
    match cs with
    | '"' :: rest =>
      match readString? (rest.length + 1) [] rest with
      | none => none
      | some (key, rest) =>
        match skipSpace rest with
        | ':' :: rest =>
          match readValue? fuel (skipSpace rest) with
          | none => none
          | some (v, rest) =>
            match skipSpace rest with
            | '\x7d' :: rest => some ([(.text key, v)], rest)
            | ',' :: rest =>
              (readEntries? fuel (skipSpace rest)).map fun (es, rest) =>
                ((.text key, v) :: es, rest)
            | _ => none
        | _ => none
    | _ => none

end

/-- The value that a text is as a whole. -/
def read? (s : String) : Option Value :=
  let cs := s.toList
  match readValue? (cs.length + 1) (skipSpace cs) with
  | some (v, rest) => if (skipSpace rest).isEmpty then some v else none
  | none => none

/-! ### Writing -/

/-- A code unit as an escape. -/
def unitEscape (n : Nat) : List Char := ['\\', 'u'] ++ hexDigits 4 n

/-- A character inside quotes. -/
def escapeChar (c : Char) : List Char :=
  let n := c.toNat
  if c = '"' then ['\\', '"']
  else if c = '\\' then ['\\', '\\']
  else if c = '\n' then ['\\', 'n']
  else if c = '\r' then ['\\', 'r']
  else if c = '\t' then ['\\', 't']
  else if n = 8 then ['\\', 'b']
  else if n = 12 then ['\\', 'f']
  else if 32 ≤ n ∧ n < 127 then [c]
  else if n < 0x10000 then unitEscape n
  else unitEscape (0xD800 + (n - 0x10000) / 0x400) ++ unitEscape (0xDC00 + (n - 0x10000) % 0x400)

/-- A text between quotes. -/
def writeString (s : String) : String :=
  String.ofList (['"'] ++ s.toList.flatMap escapeChar ++ ['"'])

/-- A scalar; dates are written as texts. -/
def writeScalar : Scalar → String
  | .null => "null"
  | .bool b => if b then "true" else "false"
  | .int i => toString i
  | .float .nan => "NaN"
  | .float (.infinity negative) => if negative then "-Infinity" else "Infinity"
  | .float x => x.text
  | s => writeString s.toText

/-- A key; one that is no text is written as the text of its scalar. -/
def writeKey : Scalar → String
  | .text s => writeString s
  | s => writeString (writeScalar s)

/-- Bracketed parts: on one line, or one part per line, indented one step deeper than `depth`. -/
def bracket (indent : Option Nat) (depth : Nat) (opening closing : String) (parts : List String) :
    String :=
  match parts, indent with
  | [], _ => opening ++ closing
  | parts, none => opening ++ String.intercalate ", " parts ++ closing
  | parts, some width =>
    let line (depth : Nat) := "\n" ++ String.ofList (List.replicate (width * depth) ' ')
    opening ++ line (depth + 1) ++ String.intercalate ("," ++ line (depth + 1)) parts ++
      line depth ++ closing

mutual

/-- A value at a depth of nesting; `indent` is the width of a step, none for one line. -/
def writeAt (indent : Option Nat) (depth : Nat) : Value → String
  | .scalar s => writeScalar s
  | .list items => bracket indent depth "[" "]" (writeItems indent (depth + 1) items)
  | .map es => bracket indent depth "\x7b" "\x7d" (writeEntries indent (depth + 1) es)

/-- The items of a list. -/
def writeItems (indent : Option Nat) (depth : Nat) : List Value → List String
  | [] => []
  | v :: vs => writeAt indent depth v :: writeItems indent depth vs

/-- The entries of an object. -/
def writeEntries (indent : Option Nat) (depth : Nat) : List (Scalar × Value) → List String
  | [] => []
  | e :: es => writeEntry indent depth e :: writeEntries indent depth es

/-- An entry of an object. -/
def writeEntry (indent : Option Nat) (depth : Nat) : Scalar × Value → String
  | (k, v) => writeKey k ++ ": " ++ writeAt indent depth v

end

/-- A value on one line. -/
def write (v : Value) : String := writeAt none 0 v

/-- A value with one item per line, indented by two spaces per level. -/
def writeIndented (v : Value) : String := writeAt (some 2) 0 v

end MediaQuery.Json
