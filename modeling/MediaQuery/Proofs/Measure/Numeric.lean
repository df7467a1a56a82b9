import MediaQuery.Proofs.Measure.Unit
import MediaQuery.Proofs.Number.Text
import MediaQuery.Proofs.Number.Whole

/-!
# Measures of numbers and of their texts

No text of a number ends with a unit, so a value of a numeric type has the same measures as any
other value that is the same number, whatever the types of the two (`sameMeasures_of_alike`). The
digits of an integer are a literal of it, so that the integer can also be given as text
(`sameMeasures_toString`); with `px` behind them they are as many pixels (`InPixels.pixels_eq`).
-/

namespace MediaQuery.Measure

open Text Numeral Binary64

/-! ### The end of a number -/

/-- The lower-case form keeps a digit at the end. -/
theorem EndsInDigit.lower {cs : List Char} (h : EndsInDigit cs) : EndsInDigit (lower cs) := by
  obtain ⟨d, hlast, hdigit⟩ := h
  obtain ⟨cs, rfl⟩ := List.getLast?_eq_some_iff.1 hlast
  obtain ⟨hsigma, hlower⟩ := lowerChar_of_isDigit hdigit
  rw [toLower_eq_self (by decide) hdigit] at hlower
  have hend : ∀ (front : List Char) (afterCased : Bool),
      EndsInDigit (lowerFrom afterCased (front ++ [d])) := by
    intro front
    induction front with
    | nil =>
      intro afterCased
      rw [List.nil_append, lowerFrom, if_neg hsigma, hlower]
      exact ⟨d, rfl, hdigit⟩
    | cons c front ih =>
      intro afterCased
      rw [List.cons_append, lowerFrom]
      by_cases hc : c = capitalSigma
      · rw [if_pos hc]
        exact EndsInDigit.append_left (ih _) [_]
      · rw [if_neg hc]
        exact EndsInDigit.append_left (ih _) _
  exact hend cs false

/-- **No unit stands at the end of a number.** -/
theorem trailingUnit?_eq_none {α : Type} {units : List (String × α)} (htable : UnitTable units)
    {cs : List Char} (h : EndsInDigit cs) : trailingUnit? units cs = none := by
  obtain ⟨d, hlast, hdigit⟩ := h
  by_contra hsome
  obtain ⟨scale, hscale⟩ := Option.ne_none_iff_exists'.1 hsome
  obtain ⟨unit, hunit, -, front, rest, hrest, rfl⟩ := trailingUnit?_eq_some hscale
  obtain ⟨hne, hletters⟩ := htable.words unit hunit
  rcases List.eq_nil_or_concat rest with rfl | ⟨rest, c, rfl⟩
  · rw [List.append_nil, List.getLast?_append_of_ne_nil front hne] at hlast
    exact not_isAsciiLetter_of_isDigit hdigit (hletters d (List.mem_of_getLast? hlast))
  · simp only [List.concat_eq_append, ← List.append_assoc, List.getLast?_concat,
      Option.some.injEq] at hlast
    exact not_isDigit_of_isBlank (hrest c (by simp)) (hlast ▸ hdigit)

/-! ### Values of a numeric type -/

section Typed

variable {v : Value} {result : Except MeasureError Binary64}

theorem leadingNumber_of_typed (h : typedNumber? v = some result) : leadingNumber v = result := by
  unfold leadingNumber
  rw [h]

theorem wholeNumber_of_typed (h : typedNumber? v = some result) : wholeNumber v = result := by
  unfold wholeNumber
  rw [h]

theorem decimal_of_typed (h : typedNumber? v = some result) : decimal v = result := by
  unfold decimal
  rw [h]

theorem typedNumber?_int {i : Int} {x : Binary64} (h : ofInt? i = some x) :
    typedNumber? (.int i) = some (.ok x) := by
  -- the conversion stands for any function, so that nothing computes it
  obtain ⟨convert, hconvert⟩ : ∃ convert, convert = ofInt? := ⟨_, rfl⟩
  rw [typedNumber?.eq_def, ← hconvert]
  rw [← hconvert] at h
  simp only [h]

end Typed

/-! ### The same measures -/

/-- The same number but for the sign of zero, or the same error. -/
def SameNumber (a b : Except MeasureError Binary64) : Prop :=
  a = b ∨ ∃ x y, a = .ok x ∧ b = .ok y ∧ Alike x y

/-- Values that are the same number, whichever way they are read. -/
structure SameMeasures (v w : Value) : Prop where
  pixels : ∀ root, SameNumber (Measure.pixels root v) (Measure.pixels root w)
  dotsPerInch : SameNumber (Measure.dotsPerInch v) (Measure.dotsPerInch w)
  decimal : SameNumber (Measure.decimal v) (Measure.decimal w)
  wholeNumber : SameNumber (Measure.wholeNumber v) (Measure.wholeNumber w)

/-- The value has a text, with no unit of length or resolution at the end of it. -/
structure Unitless (v : Value) : Prop where
  writable : v.isWritable
  length : trailingUnit? lengthUnits (lower v.toText.toList) = none
  resolution : trailingUnit? resolutionUnits (lower v.toText.toList) = none

theorem unitless_of_endsInDigit {v : Value} (hv : v.isWritable) (h : EndsInDigit v.toText.toList) :
    Unitless v :=
  ⟨hv, trailingUnit?_eq_none unitTable_lengthUnits (EndsInDigit.lower h),
    trailingUnit?_eq_none unitTable_resolutionUnits (EndsInDigit.lower h)⟩

theorem unitless_bool (b : Bool) : Unitless (.bool b) := by
  cases b <;> exact ⟨rfl, by decide, by decide⟩

/-- An integer that has a number has few enough digits to be written. -/
theorem isWritable_of_ofInt? {i : Int} {x : Binary64} (h : ofInt? i = some x) :
    (Value.int i).isWritable := by
  have hlength := decimalLength_le_of_ofInt? h
  exact decide_eq_true (hlength.trans (by decide))

theorem unitless_int {i : Int} {x : Binary64} (h : ofInt? i = some x) : Unitless (.int i) :=
  unitless_of_endsInDigit (isWritable_of_ofInt? h) (endsInDigit_toString_int i)

theorem unitless_finite (negative : Bool) (units : Units) :
    Unitless (.float (.finite negative units)) :=
  unitless_of_endsInDigit rfl (endsInDigit_text negative units)

theorem Unitless.pixels_eq {v : Value} {x : Binary64} (h : Unitless v)
    (hx : leadingNumber v = .ok x) (root : Binary64) : pixels root v = .ok (x.mul (ofNat 1)) := by
  rw [pixels, scaled_eq hx (lowerText_of_isWritable h.writable), lengthFactor, h.length,
    Option.map_none, Option.getD_none]

theorem Unitless.dotsPerInch_eq {v : Value} {x : Binary64} (h : Unitless v)
    (hx : leadingNumber v = .ok x) : dotsPerInch v = .ok (x.mul (ofNat 1)) := by
  rw [dotsPerInch, scaled_eq hx (lowerText_of_isWritable h.writable), resolutionFactor,
    h.resolution, Option.getD_none]

/-- **Values of the same number have the same measures**, whatever their types. -/
theorem sameMeasures_of_alike {v w : Value} {x y : Binary64} (hv : typedNumber? v = some (.ok x))
    (hw : typedNumber? w = some (.ok y)) (h : Alike x y) (hv' : Unitless v) (hw' : Unitless w) :
    SameMeasures v w := by
  have hxv := leadingNumber_of_typed hv
  have hyw := leadingNumber_of_typed hw
  have hscaled := h.mul (ofNat 1)
  exact ⟨fun root => .inr ⟨_, _, hv'.pixels_eq hxv root, hw'.pixels_eq hyw root, hscaled⟩,
    .inr ⟨_, _, hv'.dotsPerInch_eq hxv, hw'.dotsPerInch_eq hyw, hscaled⟩,
    .inr ⟨x, y, decimal_of_typed hv, decimal_of_typed hw, h⟩,
    .inr ⟨x, y, wholeNumber_of_typed hv, wholeNumber_of_typed hw, h⟩⟩

/-! ### Integers as text -/

section Integer

variable {i : Int} {x : Binary64}

theorem digits_toDigits (n : Nat) : Digits (Nat.toDigits 10 n) :=
  ⟨Nat.toDigits_ne_nil, fun _ => isDigit_of_mem_toDigits⟩

theorem blanks_nil : Blanks [] := fun _ hc => absurd hc List.not_mem_nil

theorem letters_nil : ∀ c ∈ ([] : List Char), isAsciiLetter c := fun _ hc =>
  absurd hc List.not_mem_nil

/-- The text of an integer is a literal of it. -/
theorem literalOf_toString (i : Int) :
    LiteralOf (toString i).toList ⟨decide (i < 0), i.natAbs, 0⟩ := by
  have hdecimal : DecimalOf (Nat.toDigits 10 i.natAbs) (Nat.toDigits 10 i.natAbs) [] :=
    .whole (digits_toDigits _)
  have hsign : SignOf (if i < 0 then ['-'] else []) (decide (i < 0)) := by
    split_ifs with h
    · rw [decide_eq_true h]
      exact .minus
    · rw [decide_eq_false h]
      exact .none
  have hliteral := LiteralOf.mk hsign hdecimal .none
  rw [toList_toString_int]
  simpa [digitsValue_toDigits] using hliteral

theorem value_of_ofInt? (h : ofInt? i = some x) :
    Numeral.value ⟨decide (i < 0), i.natAbs, 0⟩ = x :=
  ofDecimal_of_ofInt? h

theorem lowerText_toString (i : Int) :
    lowerText (.ofString (toString i)) = .ok ((toString i).toList.map Char.toLower) := by
  have htext := lowerText_word blanks_nil (literalOf_toString i) letters_nil blanks_nil
  simpa using htext

/-- An integer with a number is written as its text. -/
theorem lowerText_int (h : ofInt? i = some x) :
    lowerText (.int i) = lowerText (.ofString (toString i)) := by
  rw [lowerText_of_isWritable (isWritable_of_ofInt? h), lowerText_ofString, Value.toText,
    Scalar.toText]

theorem leadingNumber_toString (h : ofInt? i = some x) :
    leadingNumber (.ofString (toString i)) = .ok x := by
  have hnumber := leadingNumber_word blanks_nil (literalOf_toString i) letters_nil blanks_nil
  rw [value_of_ofInt? h] at hnumber
  simpa using hnumber

theorem wholeNumber_toString (h : ofInt? i = some x) :
    wholeNumber (.ofString (toString i)) = .ok x := by
  have hnumber := (literalOf_toString i).toLower.number?_eq
  rw [value_of_ofInt? h] at hnumber
  unfold wholeNumber
  simp only [typedNumber?_ofString, lowerText_toString, hnumber, Option.getD_some]

/-- The text of an integer is no ratio. -/
theorem readRatio?_toString (i : Int) :
    readRatio? ((toString i).toList.map Char.toLower) = none := by
  by_contra hsome
  obtain ⟨⟨left, right⟩, hsides⟩ := Option.ne_none_iff_exists'.1 hsome
  obtain ⟨a, b, c, d, -, -, -, -, -, -, htext⟩ := readRatio?_eq_some_iff.1 hsides
  have hslash : '/' ∈ (toString i).toList.map Char.toLower := by
    rw [htext]
    simp
  rcases (literalOf_toString i).toLower.mem '/' hslash with hdigit | hmark
  · revert hdigit
    decide
  · revert hmark
    decide

/-- **An integer and its text have the same measures**, if the integer has a number. -/
theorem sameMeasures_toString (h : ofInt? i = some x) :
    SameMeasures (.int i) (.ofString (toString i)) := by
  have htyped := typedNumber?_int h
  refine ⟨fun root => .inl ?_, .inl ?_, .inl ?_, .inl ?_⟩
  · rw [Measure.pixels, Measure.pixels, scaled, scaled, leadingNumber_toString h,
      leadingNumber_of_typed htyped, lowerText_int h]
  · rw [Measure.dotsPerInch, Measure.dotsPerInch, scaled, scaled, leadingNumber_toString h,
      leadingNumber_of_typed htyped, lowerText_int h]
  · rw [decimal_of_typed htyped]
    simp only [Measure.decimal, typedNumber?_ofString, lowerText_toString, readRatio?_toString,
      wholeNumber_toString h]
  · rw [wholeNumber_toString h, wholeNumber_of_typed htyped]

/-! ### Integers of pixels -/

/-- An integer is as many pixels. -/
theorem pixels_int (root : Binary64) (h : i.natAbs ≤ pow2 53) :
    pixels root (.int i) = .ok (whole i) := by
  have hwhole := ofInt?_eq_whole h
  have hnumber := leadingNumber_of_typed (typedNumber?_int hwhole)
  rw [(unitless_int hwhole).pixels_eq hnumber, mul_ofNat_one]

/-- The text of an integer is as many pixels. -/
theorem pixels_toString (root : Binary64) (h : i.natAbs ≤ pow2 53) :
    pixels root (.ofString (toString i)) = .ok (whole i) := by
  have hnumber := leadingNumber_toString (ofInt?_eq_whole h)
  have hunit : Unitless (.ofString (toString i)) :=
    unitless_of_endsInDigit rfl (endsInDigit_toString_int i)
  rw [hunit.pixels_eq hnumber, mul_ofNat_one]

/-- **The text of an integer with `px` behind it** is as many pixels. -/
theorem pixels_px (root : Binary64) (h : i.natAbs ≤ pow2 53) :
    pixels root (.ofString (toString i ++ "px")) = .ok (whole i) := by
  have htext : toString i ++ "px" =
      String.ofList ([] ++ ((toString i).toList ++ ("px".toList ++ []))) := by simp
  have hletters : ∀ c ∈ "px".toList, isAsciiLetter c := by decide
  have hliteral := literalOf_toString i
  have hunit : trailingUnit? lengthUnits ([] ++ ((toString i).toList.map Char.toLower ++
      ("px".toList.map Char.toLower ++ []))) = some (.pixels (ofNat 1)) :=
    (trailingUnit?_word hliteral hletters blanks_nil unitTable_lengthUnits).1 ("px", _)
      (by simp [lengthUnits]) (by decide)
  have hnumber := leadingNumber_word blanks_nil hliteral hletters blanks_nil
  rw [value_of_ofInt? (ofInt?_eq_whole h)] at hnumber
  rw [htext, pixels, scaled_eq hnumber (lowerText_word blanks_nil hliteral hletters blanks_nil),
    lengthFactor, hunit]
  simp only [Option.map_some, Option.getD_some, LengthScale.factor, mul_ofNat_one]

/-- The ways to give an integer of pixels. -/
inductive InPixels (i : Int) : Value → Prop
  | number : InPixels i (.int i)
  | text : InPixels i (.ofString (toString i))
  | unit : InPixels i (.ofString (toString i ++ "px"))

/-- **An integer of pixels** is as many pixels, whichever way it is given. -/
theorem InPixels.pixels_eq {v : Value} (hv : InPixels i v) (root : Binary64)
    (h : i.natAbs ≤ pow2 53) : pixels root v = .ok (whole i) := by
  cases hv with
  | number => exact pixels_int root h
  | text => exact pixels_toString root h
  | unit => exact pixels_px root h

end Integer

end MediaQuery.Measure
