import MediaQuery.Number.Numeral
import MediaQuery.Text.Casing
import MediaQuery.Value

/-!
# Measures

Turning the values of features into numbers that can be compared: lengths into pixels, resolutions
into dots per inch, ratios into quotients, counts into numbers. A malformed value is NaN, or no
count; the few values that fail are named by `MeasureError`.
-/

namespace MediaQuery

open Text

/--
Why a value has no number or no text, although it is well formed: an integer or a quotient beyond
the finite numbers, or an integer with more digits than are read (`count` of them) or written.
-/
inductive MeasureError where
  | integerTooLarge
  | quotientTooLarge
  | tooManyDigits (count : Option Nat)
  deriving DecidableEq, Repr

/-- The text of the error. -/
def MeasureError.message : MeasureError → String
  | .integerTooLarge => "int too large to convert to float"
  | .quotientTooLarge => "integer division result too large for a float"
  | .tooManyDigits count => Numeral.limitMessage count

/-- The text of a value, or the error of one that cannot be written. -/
def Value.written (v : Value) : Except MeasureError String :=
  match v.text? with
  | some text => .ok text
  | none => .error (.tooManyDigits none)

namespace Measure

/-- A number from a small natural number. -/
def ofNat (n : Nat) : Binary64 := Binary64.ofDecimal false n 0

/-- The text of a value in lower case. -/
def lowerText (v : Value) : Except MeasureError (List Char) :=
  v.written.map fun text => lower text.toList

/-! ### Numbers in values -/

/-- The number that a value is by its type, if it has a numeric type. -/
def typedNumber? : Value → Option (Except MeasureError Binary64)
  | .bool b => some (.ok (ofNat b.toNat))
  | .int i =>
    match Binary64.ofInt? i with
    | some x => some (.ok x)
    | none => some (.error .integerTooLarge)
  | .float x => some (.ok x)
  | _ => none

/-- The number that a text starts with, NaN if it starts with none. -/
def numberAtStart (cs : List Char) : Binary64 :=
  match Numeral.read? (trimLeft cs) with
  | some (n, _) => n.value
  | none => .nan

/-- The number that a value starts with, NaN if it starts with none. -/
def leadingNumber (v : Value) : Except MeasureError Binary64 :=
  match typedNumber? v with
  | some result => result
  | none => (lowerText v).map numberAtStart

/-- The number that a value is as a whole, NaN if it is none or has no text. -/
def wholeNumber (v : Value) : Except MeasureError Binary64 :=
  match typedNumber? v with
  | some result => result
  | none =>
    match v with
    | .null => .ok .nan
    | v =>
      match lowerText v with
      | .error _ => .ok .nan
      | .ok cs => .ok ((number? cs).getD .nan)

/-! ### Units -/

/-- What a unit stands for, if the text is that unit and then only white space. -/
def unitAt? {α : Type} (units : List (String × α)) (cs : List Char) : Option α :=
  units.findSome? fun (name, scale) =>
    match afterStart? name.toList cs with
    | some rest => if rest.all isBlank then some scale else none
    | none => none

/-- What the unit at the end of a text stands for; of several that end it the longest one counts. -/
def trailingUnit? {α : Type} (units : List (String × α)) : List Char → Option α
  | [] => none
  | c :: cs => (unitAt? units (c :: cs)).or (trailingUnit? units cs)

/-- Pixels in a unit of length: the root font size, or the same number everywhere. -/
inductive LengthScale where
  | rootSize
  | pixels (count : Binary64)
  deriving DecidableEq, Repr

/-- Pixels per inch. -/
def pixelsPerInch : Binary64 := ofNat 96

/-- Centimetres per inch. -/
def centimetresPerInch : Binary64 := Binary64.ofDecimal false 254 (-2)

/-- The units of length. -/
def lengthUnits : List (String × LengthScale) := [
  ("em", .rootSize),
  ("rem", .rootSize),
  ("px", .pixels (ofNat 1)),
  ("cm", .pixels (pixelsPerInch.div centimetresPerInch)),
  ("mm", .pixels (pixelsPerInch.div (Binary64.ofDecimal false 254 (-1)))),
  ("in", .pixels pixelsPerInch),
  ("pt", .pixels (pixelsPerInch.div (ofNat 72))),
  ("pc", .pixels (pixelsPerInch.div (ofNat 6)))]

/-- The units of resolution, in dots per inch. -/
def resolutionUnits : List (String × Binary64) := [
  ("dpi", ofNat 1),
  ("dpcm", (ofNat 1).div centimetresPerInch),
  ("dppx", pixelsPerInch),
  ("x", pixelsPerInch)]

/-- The pixels of a unit of length under a root font size. -/
def LengthScale.factor (root : Binary64) : LengthScale → Binary64
  | .rootSize => root
  | .pixels count => count

/-! ### The four measures -/

/-- The number that a value starts with, times what stands for the unit at the end of it. -/
def scaled (factor : List Char → Binary64) (v : Value) : Except MeasureError Binary64 :=
  match leadingNumber v with
  | .error e => .error e
  | .ok x => (lowerText v).map fun cs => x.mul (factor cs)

/-- The pixels of the unit of length at the end of a text, one if there is none. -/
def lengthFactor (root : Binary64) (cs : List Char) : Binary64 :=
  ((trailingUnit? lengthUnits cs).map (·.factor root)).getD (ofNat 1)

/-- The dots per inch of the unit of resolution at the end of a text, one if there is none. -/
def resolutionFactor (cs : List Char) : Binary64 :=
  (trailingUnit? resolutionUnits cs).getD (ofNat 1)

/-- A length in pixels; a bare number is in pixels already. -/
def pixels (root : Binary64) (v : Value) : Except MeasureError Binary64 :=
  scaled (lengthFactor root) v

/-- A resolution in dots per inch; a bare number is in dots per inch already. -/
def dotsPerInch (v : Value) : Except MeasureError Binary64 := scaled resolutionFactor v

/-- The digits on both sides of a ratio, with white space allowed around each side. -/
def readRatio? (cs : List Char) : Option (List Char × List Char) :=
  let cs := trimLeft cs
  let left := cs.takeWhile isDigit
  match trimLeft (cs.dropWhile isDigit) with
  | '/' :: cs =>
    let cs := trimLeft cs
    let right := cs.takeWhile isDigit
    if !left.isEmpty && !right.isEmpty && (cs.dropWhile isDigit).all isBlank then some (left, right)
    else none
  | _ => none

/-- A natural number from digits, of which there may not be too many. -/
def sideValue (ds : List Char) : Except MeasureError Nat :=
  if Numeral.digitLimit < ds.length then .error (.tooManyDigits (some ds.length))
  else .ok (Numeral.digitsValue ds)

/-- The quotient of two sides, NaN when the second is zero. -/
def quotient (left right : List Char) : Except MeasureError Binary64 :=
  match sideValue left with
  | .error e => .error e
  | .ok n =>
    match sideValue right with
    | .error e => .error e
    | .ok d =>
      if d = 0 then .ok .nan
      else
        match Binary64.ofQuotient? n d with
        | some x => .ok x
        | none => .error .quotientTooLarge

/-- A ratio as one number: a quotient, or a number as a whole. -/
def decimal (v : Value) : Except MeasureError Binary64 :=
  match typedNumber? v with
  | some result => result
  | none =>
    match lowerText v with
    | .error e => .error e
    | .ok cs =>
      match readRatio? cs with
      | some (left, right) => quotient left right
      | none => wholeNumber v

/-- A count as a number, none when the value is not a number. -/
def count? (v : Value) : Except MeasureError (Option Binary64) :=
  (wholeNumber v).map fun x => if x.isNaN then none else some x

end Measure

end MediaQuery
