import MediaQuery.Measure

/-!
# The root font size

The size that `em` and `rem` stand for, and the sizes to go back to. A size can be set, and it can
be changed for a while: entering saves the present size and leaving restores it.

* `readRootSize` is the size that a value stands for;
* `RootSizes.set`, `RootSizes.enter` and `RootSizes.leave` are the transitions; they give no new
  state when the size is refused.
-/

namespace MediaQuery

/--
Why a value is refused as a root font size: a number that is not above zero, a text that is no
number, a value that is neither, or an integer beyond the finite numbers.
-/
inductive RootSizeError where
  | notPositive (size : Binary64)
  | unreadable (text : String)
  | notNumber (kind : String)
  | tooLarge
  deriving DecidableEq, Repr

/-- The text of the error. -/
def RootSizeError.message : RootSizeError → String
  | .notPositive size => "Root font size must be positive, got " ++ size.text
  | .unreadable text => "could not convert string to float: " ++ Text.quoted text
  | .notNumber kind => "float() argument must be a string or a real number, not '" ++ kind ++ "'"
  | .tooLarge => MeasureError.integerTooLarge.message

/-- The number that a value stands for by its type or its text. -/
def sizeNumber (v : Value) : Except RootSizeError Binary64 :=
  match v with
  | .ofString s =>
    match bareNumber? (unpadded s.toList) with
    | some x => .ok x
    | none => .error (.unreadable s)
  | v =>
    match Measure.typedNumber? v with
    | some (.ok x) => .ok x
    | some (.error _) => .error .tooLarge
    | none => .error (.notNumber v.kindName)

/-- A size that is above zero. -/
def positiveSize (x : Binary64) : Except RootSizeError Binary64 :=
  if Binary64.zero.lt x then .ok x else .error (.notPositive x)

/-- The root font size that a value stands for. -/
def readRootSize (v : Value) : Except RootSizeError Binary64 :=
  match sizeNumber v with
  | .ok x => positiveSize x
  | .error e => .error e

/--
The root font size in force, and the sizes that were in force when the open contexts were entered,
the newest first.
-/
structure RootSizes where
  current : Binary64
  saved : List Binary64
  deriving DecidableEq, Repr

namespace RootSizes

/-- The size at the start. -/
def initial : RootSizes := ⟨Measure.ofNat 16, []⟩

/-- The state with the size of a value in force. -/
def set (s : RootSizes) (v : Value) : Except RootSizeError RootSizes :=
  (readRootSize v).map fun x => ⟨x, s.saved⟩

/-- The state inside a new context, in which the size of a value is in force. -/
def enter (s : RootSizes) (v : Value) : Except RootSizeError RootSizes :=
  (readRootSize v).map fun x => ⟨x, s.current :: s.saved⟩

/--
The state after leaving the newest context. Its size is put back as any size is set; without an
open context nothing changes.
-/
def leave (s : RootSizes) : Except RootSizeError RootSizes :=
  match s.saved with
  | size :: saved => (RootSizes.mk s.current saved).set (.float size)
  | [] => .ok s

end RootSizes

end MediaQuery
