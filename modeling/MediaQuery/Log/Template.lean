import MediaQuery.Text.Columns
import MediaQuery.Value

/-!
# Templates

Texts with slots for arguments. A slot is a percent sign, optionally the name of an argument in
parentheses, flags, a width and a precision, and a letter that says how the argument is written:
as text (`s`, `r`, `a`), as an integer (`d`, `i`, `u`, `x`, `X`, `o`), as a character (`c`) or as a
number (`f`, `e`, `g` and their capitals). Two percent signs are one.

* `fillTemplate` puts arguments into the slots of a template.
-/

namespace MediaQuery.Log

open Text

/--
Why arguments do not fit a template: one is of the wrong kind or their number is wrong, the template
itself is wrong or a number has no integer, or a number is beyond all integers.
-/
inductive TemplateError where
  | mismatch (reason : String)
  | malformed (reason : String)
  | unbounded (reason : String)
  deriving DecidableEq, Repr

/-- The text of the error. -/
def TemplateError.message : TemplateError → String
  | .mismatch reason => reason
  | .malformed reason => reason
  | .unbounded reason => reason

/-! ### Slots -/

/--
How an argument is written. It is filled on the right (`left`) or with zeros to at least `width`
characters; positive numbers get a plus sign or a space (`blank`); the other form (`alternate`) has
the name of the base, or all zeros. The precision counts the digits after the point, the least
digits of an integer, or the most characters of a text.
-/
structure Slot where
  left : Bool := false
  plus : Bool := false
  blank : Bool := false
  alternate : Bool := false
  zero : Bool := false
  width : Nat := 0
  precision : Option Nat := none

/-- The arguments that are left: a list, or a mapping, which can also be taken once as a whole. -/
inductive Arguments where
  | listed (rest : List Value)
  | named (entries : Entries Value) (taken : Bool)

/-- The next argument. -/
def Arguments.next : Arguments → Except TemplateError (Value × Arguments)
  | .listed (v :: rest) => .ok (v, .listed rest)
  | .named entries false => .ok (.map entries, .named entries true)
  | _ => .error (.mismatch "not enough arguments for format string")

/-- An argument by name. -/
def Arguments.find (args : Arguments) (name : String) : Except TemplateError Value :=
  match args with
  | .named entries _ =>
    match entries.get? (.text name) with
    | some v => .ok v
    | none => .error (.mismatch (quoted name))
  | .listed _ => .error (.mismatch "format requires a mapping")

/-- A flag added to a slot, if the character is one. -/
def Slot.withFlag? (p : Slot) (c : Char) : Option Slot :=
  match c with
  | '-' => some { p with left := true }
  | '+' => some { p with plus := true }
  | ' ' => some { p with blank := true }
  | '#' => some { p with alternate := true }
  | '0' => some { p with zero := true }
  | _ => none

/-- The flags at the start of a text. -/
def readFlags (p : Slot) : List Char → Slot × List Char
  | c :: cs =>
    match p.withFlag? c with
    | some p => readFlags p cs
    | none => (p, c :: cs)
  | [] => (p, [])

/-- The value of ASCII digits. -/
def countOf (ds : List Char) : Nat := ds.foldl (fun n c => 10 * n + (c.toNat - 48)) 0

/-- A name between balanced parentheses, for a text that stands after the opening one. -/
def readArgumentName : Nat → List Char → Option (List Char × List Char)
  | _, [] => none
  | depth, c :: cs =>
    if c = ')' then
      match depth with
      | 0 => some ([], cs)
      | depth + 1 => (readArgumentName depth cs).map fun (name, rest) => (c :: name, rest)
    else
      let depth := if c = '(' then depth + 1 else depth
      (readArgumentName depth cs).map fun (name, rest) => (c :: name, rest)

/-- A count at the start of a text: digits, or a star for an integer argument. -/
def readCount (args : Arguments) (cs : List Char) :
    Except TemplateError (Option Int × Arguments × List Char) :=
  match cs with
  | '*' :: rest => do
    let (v, args) ← args.next
    match v with
    | .int i => return (some i, args, rest)
    | .bool b => return (some b.toNat, args, rest)
    | _ => throw (.mismatch "* wants int")
  | _ =>
    let ds := cs.takeWhile isAsciiDigit
    if ds.isEmpty then return (none, args, cs)
    else return (some (countOf ds : Nat), args, cs.drop ds.length)

/-! ### Writing arguments -/

/-- A text filled with spaces to the width. -/
def Slot.fill (p : Slot) (cs : List Char) : List Char :=
  if p.left then cs ++ spaces (p.width - cs.length) else spaces (p.width - cs.length) ++ cs

/-- A text in its slot. -/
def Slot.writeText (p : Slot) (cs : List Char) : List Char :=
  p.fill (match p.precision with
    | some n => cs.take n
    | none => cs)

/-- The sign of a number. -/
def Slot.sign (p : Slot) (negative : Bool) : List Char :=
  if negative then ['-'] else if p.plus then ['+'] else if p.blank then [' '] else []

/-- Sign, base and digits of a number in its slot. -/
def Slot.writeNumber (p : Slot) (negative : Bool) (base digits : List Char) : List Char :=
  let start := p.sign negative ++ base
  let zeros := if p.zero && !p.left then p.width - (start.length + digits.length) else 0
  p.fill (start ++ List.replicate zeros '0' ++ digits)

/-- Digits with at least as many as the precision says. -/
def Slot.leastDigits (p : Slot) (digits : List Char) : List Char :=
  List.replicate ((p.precision.getD 0) - digits.length) '0' ++ digits

/-- Characters that are not ASCII, escaped. -/
def escapeWide (c : Char) : List Char :=
  let n := c.toNat
  if n < 128 then [c]
  else if n < 0x100 then ['\\', 'x'] ++ hexDigits 2 n
  else if n < 0x10000 then ['\\', 'u'] ++ hexDigits 4 n
  else ['\\', 'U'] ++ hexDigits 8 n

/-- The integer of a value, without the fraction of a number. -/
def integerPart (letter : Char) (v : Value) : Except TemplateError Int :=
  match v with
  | .bool b => .ok b.toNat
  | .int i => .ok i
  | .float (.finite negative units) =>
    let n : Int := (units.count / Binary64.one : Nat)
    .ok (if negative then -n else n)
  | .float .nan => .error (.malformed "cannot convert float NaN to integer")
  | .float (.infinity _) => .error (.unbounded "cannot convert float infinity to integer")
  | v => .error (.mismatch ("%" ++ letter.toString ++
      " format: a real number is required, not " ++ v.kindName))

/-- The integer of a value that is one. -/
def exactInteger (letter : Char) (v : Value) : Except TemplateError Int :=
  match v with
  | .bool b => .ok b.toNat
  | .int i => .ok i
  | v => .error (.mismatch ("%" ++ letter.toString ++
      " format: an integer is required, not " ++ v.kindName))

/-- The number of a value. -/
def realNumber (v : Value) : Except TemplateError Binary64 :=
  match v with
  | .bool b => .ok (Binary64.ofDecimal false b.toNat 0)
  | .float x => .ok x
  | .int i =>
    match Binary64.ofInt? i with
    | some x => .ok x
    | none => .error (.unbounded "int too large to convert to float")
  | v => .error (.mismatch ("must be real number, not " ++ v.kindName))

/-- Digits with a point before the last `places` of them. -/
def pointed (p : Slot) (places n : Nat) : List Char :=
  let digits := Nat.toDigits 10 n
  let digits := List.replicate (places + 1 - digits.length) '0' ++ digits
  let whole := digits.take (digits.length - places)
  if places = 0 then (if p.alternate then whole ++ ['.'] else whole)
  else whole ++ ['.'] ++ digits.drop (digits.length - places)

/-- A count of units in decimal notation. -/
def fixedText (p : Slot) (places units : Nat) : List Char :=
  pointed p places (Binary64.roundQuotient (units * pow10 places) Binary64.one)

/-- The power of ten of the first digit of a positive count of units. -/
def leadingPower (units : Nat) : Int :=
  let one := Binary64.one
  if one ≤ units then (Binary64.decimalLength (units / one) : Int) - 1
  else
    let k := Binary64.decimalLength (one / units)
    if units * pow10 (k - 1) = one then -((k - 1 : Nat) : Int) else -(k : Int)

/-- The first digits of a count of units as an integer, and the power of ten of the first. -/
def leadingDigits (places units : Nat) : Nat × Int :=
  if units = 0 then (0, 0)
  else
    let power := leadingPower units
    let shift := (places : Int) - power
    let n :=
      if 0 ≤ shift then Binary64.roundQuotient (units * pow10 shift.toNat) Binary64.one
      else Binary64.roundQuotient units (Binary64.one * pow10 (-shift).toNat)
    if n = pow10 (places + 1) then (n / 10, power + 1) else (n, power)

/-- A power of ten as an exponent of at least two digits. -/
def exponentText (power : Int) : List Char :=
  ['e', if power < 0 then '-' else '+'] ++ (padded 2 power.natAbs).toList

/-- A count of units in exponent notation. -/
def exponentForm (p : Slot) (places units : Nat) : List Char :=
  let (n, power) := leadingDigits places units
  pointed p places n ++ exponentText power

/-- A text without zeros at the end of its fraction. -/
def dropZeros (cs : List Char) : List Char :=
  if cs.contains '.' then
    ((cs.reverse.dropWhile (· == '0')).dropWhile (· == '.')).reverse
  else cs

/-- A count of units in the shorter of the two notations. -/
def generalForm (p : Slot) (precision units : Nat) : List Char :=
  let precision := if precision = 0 then 1 else precision
  let (n, power) := leadingDigits (precision - 1) units
  let shorten (cs : List Char) := if p.alternate then cs else dropZeros cs
  if -4 ≤ power ∧ power < precision then
    shorten (fixedText p ((precision : Int) - 1 - power).toNat units)
  else shorten (pointed p (precision - 1) n) ++ exponentText power

/-- A number in its slot. -/
def Slot.writeReal (p : Slot) (letter : Char) (x : Binary64) : List Char :=
  let precision := p.precision.getD 6
  let (negative, digits) :=
    match x with
    | .nan => (false, "nan".toList)
    | .infinity negative => (negative, "inf".toList)
    | .finite negative units =>
      (negative,
        if letter = 'f' ∨ letter = 'F' then fixedText p precision units.count
        else if letter = 'e' ∨ letter = 'E' then exponentForm p precision units.count
        else generalForm p precision units.count)
  let digits := if letter.isUpper then digits.map Char.toUpper else digits
  p.writeNumber negative [] digits

/-- An integer in another base, with the name of the base in the other form. -/
def Slot.writeBase (p : Slot) (letter : Char) (i : Int) : List Char :=
  let base := if letter = 'o' then 8 else 16
  let digits := p.leastDigits (Nat.toDigits base i.natAbs)
  let digits := if letter = 'X' then digits.map Char.toUpper else digits
  p.writeNumber (decide (i < 0)) (if p.alternate then ['0', letter] else []) digits

/-- The text of an argument, or the error of one whose integers cannot be written. -/
def orUnwritable (text : Option String) : Except TemplateError String :=
  match text with
  | some text => .ok text
  | none => .error (.malformed (Numeral.limitMessage none))

/-- An argument in its slot, by the letter of the slot. -/
def Slot.write (p : Slot) (letter : Char) (index : Nat) (v : Value) :
    Except TemplateError (List Char) :=
  match letter with
  | 's' => (orUnwritable v.text?).map fun text => p.writeText text.toList
  | 'r' => (orUnwritable v.shown?).map fun text => p.writeText text.toList
  | 'a' => (orUnwritable v.shown?).map fun text => p.writeText (text.toList.flatMap escapeWide)
  | 'd' | 'i' | 'u' =>
    match integerPart letter v with
    | .error e => .error e
    | .ok i =>
      (orUnwritable (Value.int i).text?).map fun _ =>
        p.writeNumber (decide (i < 0)) [] (p.leastDigits (Nat.toDigits 10 i.natAbs))
  | 'x' | 'X' | 'o' => (exactInteger letter v).map (p.writeBase letter)
  | 'e' | 'E' | 'f' | 'F' | 'g' | 'G' => (realNumber v).map (p.writeReal letter)
  | 'c' =>
    match v with
    | .int i =>
      if 0 ≤ i ∧ i < 0x110000 then .ok (p.fill [Char.ofNat i.toNat])
      else .error (.unbounded "%c arg not in range(0x110000)")
    | .bool b => .ok (p.fill [Char.ofNat b.toNat])
    | .ofString s =>
      if s.length = 1 then .ok (p.fill s.toList) else .error (.mismatch "%c requires int or char")
    | _ => .error (.mismatch "%c requires int or char")
  | c =>
    let shown := if 31 ≤ c.toNat ∧ c.toNat < 127 then c else '?'
    .error (.malformed ("unsupported format character '" ++ shown.toString ++ "' (0x" ++
      String.ofList (Nat.toDigits 16 c.toNat) ++ ") at index " ++ toString index))

/-! ### Filling -/

/-- The text of one slot and what follows it; `total` is the length of the template. -/
def fillPlace (total : Nat) (args : Arguments) (cs : List Char) :
    Except TemplateError (List Char × Arguments × List Char) := do
  let incomplete : TemplateError := .malformed "incomplete format"
  let (named, cs) ←
    match cs with
    | '(' :: rest =>
      match readArgumentName 0 rest with
      | some (name, rest) => do
        let v ← args.find (String.ofList name)
        pure (some v, rest)
      | none =>
        match args with
        | .named _ _ => throw (.malformed "incomplete format key")
        | .listed _ => throw (.mismatch "format requires a mapping")
    | _ => pure (none, cs)
  let (p, cs) := readFlags {} cs
  let (width, args, cs) ← readCount args cs
  let p :=
    match width with
    | some w => { p with left := p.left || decide (w < 0), width := w.natAbs }
    | none => p
  let (precision, args, cs) ←
    match cs with
    | '.' :: rest => do
      let (precision, args, cs) ← readCount args rest
      pure (some ((precision.getD 0).toNat), args, cs)
    | _ => pure (none, args, cs)
  let p := { p with precision := precision }
  let cs :=
    match cs with
    | c :: rest => if c = 'h' ∨ c = 'l' ∨ c = 'L' then rest else cs
    | [] => cs
  match cs with
  | [] => throw incomplete
  | '%' :: rest => return (['%'], args, rest)
  | letter :: rest =>
    let (v, args) ←
      match named with
      | some v => pure (v, args)
      | none => args.next
    let text ← p.write letter (total - cs.length) v
    return (text, args, rest)

/-- The rest of a template with its slots filled. -/
def fillFrom (total : Nat) : Nat → Arguments → List Char → Except TemplateError (List Char)
  | 0, _, _ => .ok []
  | fuel + 1, args, cs =>
    match cs with
    | [] =>
      match args with
      | .listed (_ :: _) =>
        .error (.mismatch "not all arguments converted during string formatting")
      | _ => .ok []
    | '%' :: rest => do
      let (text, args, rest) ← fillPlace total args rest
      return text ++ (← fillFrom total fuel args rest)
    | c :: rest => return c :: (← fillFrom total fuel args rest)

/-- A template with arguments put into its slots; a single mapping gives arguments by name. -/
def fillTemplate (template : String) (args : List Value) : Except TemplateError String :=
  let cs := template.toList
  let args : Arguments :=
    match args with
    | [.map (e :: es)] => .named (e :: es) false
    | args => .listed args
  (fillFrom cs.length (cs.length + 1) args cs).map String.ofList

end MediaQuery.Log
