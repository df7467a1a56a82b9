import MediaQuery.Number.Binary64

/-!
# The shortest decimal of a number

`Decimal.shortest` finds, for a positive number of units, the fewest decimal digits that read
back as the same number and of those the nearest. `Layout` says how such a decimal is written;
`Binary64.text` writes a number in the layout of this library's output.
-/

namespace MediaQuery

/-- The positive decimal `0.d₁d₂… * 10 ^ point`, its digits given as one natural number. -/
structure Decimal where
  digits : Nat
  point : Int
  deriving DecidableEq, Repr

namespace Decimal

/--
The power of ten above `units`: the least `p` with value below `10 ^ p`, looked for downwards
from `p` through at most `fuel` steps.
-/
def pointBelow (units : Nat) : Nat → Int → Int
  | 0, p => p
  | fuel + 1, p =>
    let below : Bool :=
      if 0 ≤ p - 1 then units < pow10 (p - 1).toNat * Binary64.one
      else units * pow10 (1 - p).toNat < Binary64.one
    if below then pointBelow units fuel (p - 1) else p

/-- The power of ten just above the value of `units`. -/
def pointOf (units : Nat) : Int :=
  let whole := units / Binary64.one
  if whole = 0 then pointBelow units 330 0 else Binary64.decimalLength whole

/--
Quarter units from the number to the ends of the interval of reals that round to it, below and
above. The gap below is half as wide when the number is the least one of its spacing.
-/
def halfGaps (units : Nat) : Nat × Nat :=
  let k := Binary64.spacing units
  let step := pow2 k
  (if 0 < k ∧ units = pow2 52 * step then step else 2 * step, 2 * step)

/--
The decimal with `count` digits nearest to `units` among its two neighbours on that grid, if one
of them lies in the interval that rounds to `units`. The ends belong to the interval when the
significand is even.
-/
def onGrid? (units : Nat) (point : Int) (count : Nat) : Option Decimal :=
  let shift : Int := count - point
  let top := if 0 ≤ shift then pow10 shift.toNat else 1
  let bottom := if 0 ≤ shift then 1 else pow10 (-shift).toNat
  let whole := Binary64.one * bottom
  let low := units * top / whole
  let even := (units / pow2 (Binary64.spacing units)) % 2 = 0
  let (gapBelow, gapAbove) := halfGaps units
  let distance (candidate : Nat) : Int := candidate * whole - (units * top : Nat)
  let inside (candidate : Nat) : Bool :=
    let d := distance candidate
    let gap : Int := if d < 0 then (gapBelow * top : Nat) else (gapAbove * top : Nat)
    let d4 : Int := 4 * d.natAbs
    d4 < gap ∨ (d4 = gap ∧ even)
  match inside low, inside (low + 1) with
  | true, true =>
    let a := (distance low).natAbs
    let b := (distance (low + 1)).natAbs
    some ⟨if a < b ∨ (a = b ∧ low % 2 = 0) then low else low + 1, point⟩
  | true, false => some ⟨low, point⟩
  | false, true => some ⟨low + 1, point⟩
  | false, false => none

/-- The first grid, from `count` digits on, with a decimal that reads back. -/
def firstGrid (units : Nat) (point : Int) : Nat → Nat → Decimal × Nat
  | 0, count => (⟨0, point⟩, count)
  | fuel + 1, count =>
    match onGrid? units point count with
    | some d => (d, count)
    | none => firstGrid units point fuel (count + 1)

/-- Drops trailing zeros of the digits. -/
def trimZeros : Nat → Nat → Nat
  | 0, digits => digits
  | fuel + 1, digits =>
    if digits ≠ 0 ∧ digits % 10 = 0 then trimZeros fuel (digits / 10) else digits

/-- The shortest decimal that reads back as the positive number of `units`. -/
def shortest (units : Nat) : Decimal :=
  let point := pointOf units
  let (d, count) := firstGrid units point 17 1
  let carried := count < Binary64.decimalLength d.digits
  ⟨trimZeros 20 d.digits, if carried then point + 1 else point⟩

end Decimal

/--
How a decimal is laid out as text: without an exponent part if its decimal exponent is at least
`positionalFrom` and less than `positionalBelow`, and otherwise with one of at least
`exponentDigits` digits.
-/
structure Layout where
  positionalFrom : Int
  positionalBelow : Int
  exponentDigits : Nat

namespace Layout

/-- Numbers are written positionally from `1e-4` to below `1e16`, exponents with two digits. -/
def standard : Layout := ⟨-4, 16, 2⟩

/-- The exponent part: `e`, a sign and at least `exponentDigits` digits. -/
def exponentText (layout : Layout) (e : Int) : String :=
  let digits := toString e.natAbs
  let sign := if e < 0 then "-" else "+"
  "e" ++ sign ++ String.ofList (List.replicate (layout.exponentDigits - digits.length) '0') ++
    digits

/-- A decimal as text; a positional one always shows a digit after the point. -/
def write (layout : Layout) (d : Decimal) : String :=
  let digits := Nat.toDigits 10 d.digits
  let exponent := d.point - 1
  if layout.positionalFrom ≤ exponent ∧ exponent < layout.positionalBelow then
    if d.point ≤ 0 then
      "0." ++ String.ofList (List.replicate (-d.point).toNat '0' ++ digits)
    else
      let point := d.point.toNat
      let whole := digits.take point ++ List.replicate (point - digits.length) '0'
      let fraction := digits.drop point
      String.ofList whole ++ "." ++ (if fraction.isEmpty then "0" else String.ofList fraction)
  else
    let fraction := digits.drop 1
    String.ofList (digits.take 1) ++
      (if fraction.isEmpty then "" else "." ++ String.ofList fraction) ++
      layout.exponentText exponent

end Layout

/-- A number as text: its shortest decimal in the standard layout, with its sign. -/
def Binary64.text : Binary64 → String
  | .nan => "nan"
  | .infinity negative => if negative then "-inf" else "inf"
  | .finite negative units =>
    (if negative then "-" else "") ++
      (if units.count = 0 then "0.0" else Layout.standard.write (Decimal.shortest units.count))

end MediaQuery
