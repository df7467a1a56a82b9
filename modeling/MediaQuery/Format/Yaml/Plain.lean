import MediaQuery.Format.Json

/-!
# Plain scalars of YAML

What a scalar without quotes stands for in YAML 1.1: null, truth values in many spellings, integers
in five notations (among them base sixty, as in `16:9`), numbers, dates, or else a text.
-/

namespace MediaQuery.Yaml

open Text

/--
Why a text is no YAML document: it does not follow the grammar or a part of it stands for nothing,
it holds a date or a time that does not exist, or an integer with more digits than are read.
-/
inductive Error where
  | malformed
  | badDate (reason : String)
  | tooManyDigits (count : Nat)
  deriving DecidableEq, Repr

/--
A reader of YAML: the tree of a text, or why it has none. Settings are made with any reader;
`read` is one that takes the documents without anchors, tags and marked keys.
-/
abbrev Reader := String → Except Error Value

/--
What a plain scalar stands for: a value, the sign (as a key) that the entries of another mapping
belong here, or an equals sign alone, which stands for nothing.
-/
inductive Plain where
  | scalar (s : Scalar)
  | mergeSign
  | defaultSign
  deriving DecidableEq, Repr

/-! ### Names -/

/-- Spellings of true. -/
def trueNames : List String :=
  ["yes", "Yes", "YES", "true", "True", "TRUE", "on", "On", "ON"]

/-- Spellings of false. -/
def falseNames : List String :=
  ["no", "No", "NO", "false", "False", "FALSE", "off", "Off", "OFF"]

/-- Spellings of null. -/
def nullNames : List String := ["", "~", "null", "Null", "NULL"]

/-! ### Integers -/

/-- The text without underscores. -/
def dropUnderscores (cs : List Char) : List Char := cs.filter (· != '_')

/-- The natural number that digits of a base spell. -/
def digitsIn (base : Nat) (ds : List Char) : Nat :=
  ds.foldl (fun n c => base * n + (Json.hexValue? c).getD 0) 0

/-- Digits below `bound` and underscores, at least one character. -/
def isRun (allowed : Char → Bool) (cs : List Char) : Bool :=
  !cs.isEmpty && cs.all fun c => c == '_' || allowed c

/-- A digit that starts a number without a leading zero. -/
def isNonzeroDigit (c : Char) : Bool := '1' ≤ c && c ≤ '9'

/-- A further part of a number in base sixty: one or two digits below sixty. -/
def isSexagesimal : List Char → Bool
  | [a] => isAsciiDigit a
  | [a, b] => '0' ≤ a && a ≤ '5' && isAsciiDigit b
  | _ => false

/-- The value of parts in base sixty. -/
def sexagesimal (parts : List (List Char)) : Nat :=
  parts.foldl (fun n part => 60 * n + digitsIn 10 (dropUnderscores part)) 0

/-- An integer in base two, eight or sixteen without sign, with its mark in front. -/
def markedNatural? (cs : List Char) : Option Nat :=
  match cs with
  | ['0'] => some 0
  | '0' :: 'b' :: ds =>
    if isRun (fun c => c == '0' || c == '1') ds && !(dropUnderscores ds).isEmpty then
      some (digitsIn 2 (dropUnderscores ds))
    else none
  | '0' :: 'x' :: ds =>
    if isRun (fun c => (Json.hexValue? c).isSome) ds && !(dropUnderscores ds).isEmpty then
      some (digitsIn 16 (dropUnderscores ds))
    else none
  | '0' :: ds =>
    if isRun (fun c => '0' ≤ c && c ≤ '7') ds then some (digitsIn 8 (dropUnderscores ds)) else none
  | _ => none

/-- The parts of an integer in base sixty without sign; one in base ten is a single part. -/
def decimalParts? (cs : List Char) : Option (List (List Char)) :=
  match splitOn ':' cs with
  | first :: parts =>
    if first.head?.any isNonzeroDigit && isRun isAsciiDigit first && parts.all isSexagesimal then
      some (first :: parts)
    else none
  | [] => none

/-- The natural number of parts in base sixty; only the first one can have too many digits. -/
def partsValue (parts : List (List Char)) : Except Error Nat :=
  let count := (dropUnderscores (parts.headD [])).length
  if Numeral.digitLimit < count then .error (.tooManyDigits count) else .ok (sexagesimal parts)

/-- An integer without sign, if the text is one. -/
def natural? (cs : List Char) : Except Error (Option Nat) :=
  match markedNatural? cs with
  | some n => .ok (some n)
  | none =>
    match decimalParts? cs with
    | some parts => (partsValue parts).map some
    | none => .ok none

/-- An integer, if the text is one. -/
def integer? (cs : List Char) : Except Error (Option Int) :=
  let (negative, cs) := Numeral.readSign cs
  (natural? cs).map fun n => n.map fun (n : Nat) => if negative then -(n : Int) else n

/-! ### Numbers -/

/-- An exponent with its sign, which may not be left out, up to the end. -/
def isExponent (cs : List Char) : Bool :=
  match cs with
  | e :: sign :: ds =>
    (e == 'e' || e == 'E') && (sign == '+' || sign == '-') && !ds.isEmpty && ds.all isAsciiDigit
  | _ => false

/-- Nothing, or an exponent. -/
def isExponentOrNone (cs : List Char) : Bool := cs.isEmpty || isExponent cs

/-- The characters of the digits of a number. -/
def isDigitOrUnderscore (c : Char) : Bool := isAsciiDigit c || c == '_'

/-- A number in decimal notation with a point: digits on the left, or else on the right of it. -/
def isDecimal (signed : Bool) (cs : List Char) : Bool :=
  let whole := cs.takeWhile isDigitOrUnderscore
  match cs.dropWhile isDigitOrUnderscore with
  | '.' :: rest =>
    let fraction := rest.takeWhile isDigitOrUnderscore
    let after := rest.dropWhile isDigitOrUnderscore
    if whole.isEmpty then
      !signed && fraction.head?.any isAsciiDigit && isExponentOrNone after
    else whole.head?.any isAsciiDigit && isExponentOrNone after
  | _ => false

/-- A number in base sixty with a point: its parts, if it has several. -/
def sexagesimalParts? (cs : List Char) : Option (List (List Char)) :=
  match splitOn ':' cs with
  | first :: second :: more =>
    let parts := second :: more
    let last := parts.getLast?.getD []
    let lastWhole := last.takeWhile (· != '.')
    let fraction := (last.dropWhile (· != '.')).drop 1
    if first.head?.any isAsciiDigit && isRun isAsciiDigit first && last.contains '.' &&
        (parts.dropLast ++ [lastWhole]).all isSexagesimal && fraction.all isDigitOrUnderscore then
      some (first :: parts)
    else none
  | _ => none

/-- The sum of the parts of a number in base sixty, the last part first. -/
def sexagesimalSum (parts : List (List Char)) : Binary64 :=
  let step (acc : Binary64 × Nat) (part : List Char) : Binary64 × Nat :=
    let digit := (plainNumber? (dropUnderscores part)).getD .nan
    (acc.1.add (digit.mul (Binary64.ofDecimal false acc.2 0)), acc.2 * 60)
  (parts.reverse.foldl step (Binary64.zero, 1)).1

/-- A number that is not an integer by its notation. -/
def float? (text : List Char) : Option Binary64 :=
  let (negative, cs) := Numeral.readSign text
  let signed := cs.length < text.length
  let name := String.ofList cs
  let magnitude? :=
    if isDecimal signed cs then plainNumber? (dropUnderscores cs)
    else if [".inf", ".Inf", ".INF"].contains name then some (.infinity false)
    else if !signed && [".nan", ".NaN", ".NAN"].contains name then some .nan
    else (sexagesimalParts? cs).map sexagesimalSum
  magnitude?.map fun x => if negative then x.neg else x

/-! ### Dates -/

/-- A run of at least `least` and at most `most` ASCII digits, as many as there are. -/
def takeNumber? (least most : Nat) (cs : List Char) : Option (Nat × List Char) :=
  let ds := (cs.take most).takeWhile isAsciiDigit
  if least ≤ ds.length then some (digitsIn 10 ds, cs.drop ds.length) else none

/-- A given character and what follows it. -/
def expect? (c : Char) : List Char → Option (List Char)
  | d :: cs => if d = c then some cs else none
  | [] => none

/-- The days of a month. -/
def daysIn (year month : Nat) : Nat :=
  if month = 2 then
    (if (year % 4 = 0 ∧ year % 100 ≠ 0) ∨ year % 400 = 0 then 29 else 28)
  else if [4, 6, 9, 11].contains month then 30
  else 31

/-- A day that exists, or what is wrong with it. -/
def checkDay (d : Day) : Except Error Day :=
  if d.year = 0 then .error (.badDate "year 0 is out of range")
  else if d.month < 1 ∨ 12 < d.month then .error (.badDate "month must be in 1..12")
  else if d.day < 1 ∨ daysIn d.year d.month < d.day then
    .error (.badDate "day is out of range for month")
  else .ok d

/-- A time that exists, or what is wrong with it. -/
def checkClock (c : Clock) : Except Error Clock :=
  if 23 < c.hour then .error (.badDate "hour must be in 0..23")
  else if 59 < c.minute then .error (.badDate "minute must be in 0..59")
  else if 59 < c.second then .error (.badDate "second must be in 0..59")
  else .ok c

/-- A day with two digits for month and day. -/
def readDay? (cs : List Char) : Option Day := do
  let (year, cs) ← takeNumber? 4 4 cs
  let cs ← expect? '-' cs
  let (month, cs) ← takeNumber? 2 2 cs
  let cs ← expect? '-' cs
  let (day, cs) ← takeNumber? 2 2 cs
  if cs.isEmpty then some ⟨year, month, day⟩ else none

/-- Space or tab. -/
def isInlineSpace (c : Char) : Bool := c == ' ' || c == '\t'

/-- The distance from universal time at the end of a time: none, the letter Z, or hours. -/
def readOffset? (cs : List Char) : Option (Option Int) :=
  if cs.isEmpty then some none
  else
    match cs.dropWhile isInlineSpace with
    | ['Z'] => some (some 0)
    | sign :: rest =>
      if sign = '+' ∨ sign = '-' then
        let signed (minutes : Nat) : Int := if sign = '-' then -minutes else minutes
        match takeNumber? 1 2 rest with
        | some (hours, []) => some (some (signed (hours * 60)))
        | some (hours, ':' :: rest) =>
          match takeNumber? 2 2 rest with
          | some (minutes, []) => some (some (signed (hours * 60 + minutes)))
          | _ => none
        | _ => none
      else none
    | [] => some none

/-- The microseconds of a fraction of a second. -/
def microseconds (ds : List Char) : Nat :=
  digitsIn 10 (ds.take 6 ++ List.replicate (6 - ds.length) '0')

/-- A day and a time, with the letter T or blanks between them. -/
def readMoment? (cs : List Char) : Option (Day × Clock) := do
  let (year, cs) ← takeNumber? 4 4 cs
  let cs ← expect? '-' cs
  let (month, cs) ← takeNumber? 1 2 cs
  let cs ← expect? '-' cs
  let (day, cs) ← takeNumber? 1 2 cs
  let cs ←
    match cs with
    | 'T' :: cs => some cs
    | 't' :: cs => some cs
    | c :: cs => if isInlineSpace c then some (cs.dropWhile isInlineSpace) else none
    | [] => none
  let (hour, cs) ← takeNumber? 1 2 cs
  let cs ← expect? ':' cs
  let (minute, cs) ← takeNumber? 2 2 cs
  let cs ← expect? ':' cs
  let (second, cs) ← takeNumber? 2 2 cs
  let (fraction, cs) :=
    match cs with
    | '.' :: cs => (cs.takeWhile isAsciiDigit, cs.dropWhile isAsciiDigit)
    | _ => ([], cs)
  let offset ← readOffset? cs
  return (⟨year, month, day⟩, ⟨hour, minute, second, microseconds fraction, offset⟩)

/-! ### Resolution -/

/-- What a plain scalar stands for. -/
def resolve (cs : List Char) : Except Error Plain :=
  let name := String.ofList cs
  if trueNames.contains name then .ok (.scalar (.bool true))
  else if falseNames.contains name then .ok (.scalar (.bool false))
  else if nullNames.contains name then .ok (.scalar .null)
  else if name = "<<" then .ok .mergeSign
  else if name = "=" then .ok .defaultSign
  else
    match float? cs with
    | some x => .ok (.scalar (.float x))
    | none =>
      match integer? cs with
      | .error e => .error e
      | .ok (some i) => .ok (.scalar (.int i))
      | .ok none =>
        match readDay? cs with
        | some d => (checkDay d).map fun d => .scalar (.date d)
        | none =>
          match readMoment? cs with
          | some (d, c) =>
            match checkDay d, checkClock c with
            | .error e, _ => .error e
            | .ok _, .error e => .error e
            | .ok d, .ok c => .ok (.scalar (.moment d c))
          | none => .ok (.scalar (.text name))

end MediaQuery.Yaml
