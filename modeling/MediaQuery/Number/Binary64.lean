import MediaQuery.Number.Units

/-!
# Binary64 numbers

The numbers that queries and environments are compared by. A finite number is a sign and a count
of units of `2 ^ -1074`, so that comparing two numbers is comparing two integers and every operation
is one exact integer computation followed by one rounding to 53 binary digits.

* `nearest` is the number that a quotient is rounded to;
* `lt` and `eq` compare by `position`, a place on the integer line that only NaN lacks;
* `near` is equality up to a tolerance.
-/

namespace MediaQuery

/-- A power of ten. -/
def pow10 (n : Nat) : Nat := Nat.pow 10 n

/--
A binary64 number; `finite negative units` is `units * 2 ^ -1074` with its sign, zero included.
-/
inductive Binary64 where
  | nan
  | infinity (negative : Bool)
  | finite (negative : Bool) (units : Binary64.Units)
  deriving DecidableEq, Repr, Inhabited

namespace Binary64

/-! ### Numbers from integers, quotients and decimals -/

/-- Positive zero. -/
def zero : Binary64 := .finite false .zero

/-- The number nearest to `± n / d` units; from `2 ^ 1024` on it is infinite. -/
def nearest (negative : Bool) (n d : Nat) : Binary64 :=
  ((Units.round? n d).map (.finite negative)).getD (.infinity negative)

/-- The number nearest to `i`, none when that is not finite. -/
def ofInt? (i : Int) : Option Binary64 :=
  (Units.round? (i.natAbs * one) 1).map (.finite (decide (i < 0)))

/-- The number nearest to `n / d`, none when that is not finite. -/
def ofQuotient? (n d : Nat) : Option Binary64 :=
  (Units.round? (n * one) d).map (.finite false)

/-- The number of decimal digits of `n`, none for zero. -/
def decimalLength (n : Nat) : Nat := if n = 0 then 0 else (Nat.toDigits 10 n).length

/--
The number nearest to `± mantissa * 10 ^ exponent`. Magnitudes from `10 ^ 310` on are infinite and
those below `10 ^ -330` are zero, whatever the rounding, so no larger power of ten is formed.
-/
def ofDecimal (negative : Bool) (mantissa : Nat) (exponent : Int) : Binary64 :=
  let size : Int := decimalLength mantissa + exponent
  if mantissa = 0 then .finite negative .zero
  else if 310 < size then .infinity negative
  else if size < -330 then .finite negative .zero
  else if 0 ≤ exponent then
    nearest negative (mantissa * pow10 exponent.toNat * one) 1
  else
    nearest negative (mantissa * one) (pow10 (-exponent).toNat)

/-! ### Order -/

/-- Where a number lies on the line of units; NaN lies nowhere. -/
def position : Binary64 → Option Int
  | .nan => none
  | .infinity negative => some (if negative then -unitsLimit else unitsLimit)
  | .finite negative units => some (if negative then -units.count else units.count)

/-- Strictly less; false when either is NaN. -/
def lt (a b : Binary64) : Bool :=
  match a.position, b.position with
  | some x, some y => x < y
  | _, _ => false

/-- Numerically equal: both zeros are, NaN is equal to nothing. -/
def eq (a b : Binary64) : Bool :=
  match a.position, b.position with
  | some x, some y => x == y
  | _, _ => false

/-- Less or equal; false when either is NaN. -/
def le (a b : Binary64) : Bool := a.lt b || a.eq b

/-- The test for NaN. -/
def isNaN : Binary64 → Bool
  | .nan => true
  | _ => false

/-- The test for the two infinities. -/
def isInfinite : Binary64 → Bool
  | .infinity _ => true
  | _ => false

/-- The integer that a finite number without fraction is. -/
def toInt? : Binary64 → Option Int
  | .finite negative units =>
    if units.count % one = 0 then
      some (if negative then -(units.count / one : Nat) else (units.count / one : Nat))
    else none
  | _ => none

/-! ### Arithmetic -/

/-- The number with the opposite sign. -/
def neg : Binary64 → Binary64
  | .nan => .nan
  | .infinity negative => .infinity (!negative)
  | .finite negative units => .finite (!negative) units

/-- The magnitude. -/
def abs : Binary64 → Binary64
  | .nan => .nan
  | .infinity _ => .infinity false
  | .finite _ units => .finite false units

/-- The rounded sum of two counts of units with signs; what cancels out gives positive zero. -/
def addCounts (a : Bool) (m : Nat) (b : Bool) (n : Nat) : Binary64 :=
  if a = b then nearest a (m + n) 1
  else if m = n then zero
  else if n < m then nearest a (m - n) 1
  else nearest b (n - m) 1

/-- The rounded sum; opposite infinities give NaN. -/
def add : Binary64 → Binary64 → Binary64
  | .nan, _ => .nan
  | _, .nan => .nan
  | .infinity a, .infinity b => if a = b then .infinity a else .nan
  | .infinity a, .finite _ _ => .infinity a
  | .finite _ _, .infinity b => .infinity b
  | .finite a u, .finite b v => addCounts a u.count b v.count

/-- The rounded difference. -/
def sub (a b : Binary64) : Binary64 := a.add b.neg

/-- The rounded product; zero times an infinity is NaN. -/
def mul : Binary64 → Binary64 → Binary64
  | .nan, _ => .nan
  | _, .nan => .nan
  | .infinity a, .infinity b => .infinity (a != b)
  | .infinity a, .finite b v => if v.count = 0 then .nan else .infinity (a != b)
  | .finite a u, .infinity b => if u.count = 0 then .nan else .infinity (a != b)
  | .finite a u, .finite b v => nearest (a != b) (u.count * v.count) one

/-- The rounded quotient; zero by zero is NaN. -/
def div : Binary64 → Binary64 → Binary64
  | .nan, _ => .nan
  | _, .nan => .nan
  | .infinity _, .infinity _ => .nan
  | .infinity a, .finite b _ => .infinity (a != b)
  | .finite a _, .infinity b => .finite (a != b) .zero
  | .finite a u, .finite b v =>
    if v.count = 0 then (if u.count = 0 then .nan else .infinity (a != b))
    else nearest (a != b) (u.count * one) v.count

/-! ### Equality up to a tolerance -/

/--
How far apart two numbers may be and still count as equal: by a part of the larger magnitude, or by
a distance that is always allowed.
-/
structure Tolerance where
  relative : Binary64
  absolute : Binary64

/--
Equal, or both finite and no farther apart than the absolute tolerance or the relative tolerance
of one of the two.
-/
def near (tolerance : Tolerance) (a b : Binary64) : Bool :=
  if a.eq b then true
  else if a.isInfinite || b.isInfinite then false
  else
    let distance := (b.sub a).abs
    distance.le (tolerance.relative.mul b).abs ||
      distance.le (tolerance.relative.mul a).abs || distance.le tolerance.absolute

end Binary64

end MediaQuery
