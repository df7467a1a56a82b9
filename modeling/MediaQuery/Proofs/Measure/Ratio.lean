import MediaQuery.Measure
import MediaQuery.Proofs.Number.Rounding
import MediaQuery.Proofs.Text.Parts

/-!
# Ratios

What a text with a slash is as a number. `RatioOf` says where such a text is cut, and `Oversized`
which ratios have no number, although they are well formed: those with a side of too many digits and
those whose quotient overflows. All other texts have one, `exists_decimal_iff`.
-/

namespace MediaQuery.Measure

open Text Binary64

/-! ### The sides of a ratio -/

/-- Digits of any scripts, at least one. -/
def Digits (cs : List Char) : Prop := cs ≠ [] ∧ ∀ c ∈ cs, isDigit c

/-- White space, or nothing. -/
def Blanks (cs : List Char) : Prop := ∀ c ∈ cs, isBlank c

/-- A ratio by its two sides: digits around a slash, with white space around each side. -/
def RatioOf (cs left right : List Char) : Prop :=
  ∃ a b c d, Blanks a ∧ Blanks b ∧ Blanks c ∧ Blanks d ∧ Digits left ∧ Digits right ∧
    cs = a ++ (left ++ (b ++ '/' :: (c ++ (right ++ d))))

variable {cs left right : List Char}

theorem not_isDigit_of_isBlank {c : Char} (h : isBlank c) : ¬ isDigit c := by
  have hall : ∀ n ∈ blankCodes, ¬ isDigit (Char.ofNat n) := by decide
  exact forall_char_mem (P := fun c => ¬ isDigit c) hall (toNat_mem_blankCodes h)

theorem Digits.head? (h : Digits left) : ∀ c ∈ (left ++ cs).head?, ¬ isBlank c := by
  obtain ⟨c, left, rfl⟩ := List.exists_cons_of_ne_nil h.1
  intro d hd
  obtain rfl : c = d := by simpa using hd
  exact fun hblank => not_isDigit_of_isBlank hblank (h.2 c List.mem_cons_self)

/-- White space ends digits, and so does what follows it. -/
theorem Blanks.head? {b : List Char} (h : Blanks b) (hcs : ∀ c ∈ cs.head?, ¬ isDigit c) :
    ∀ c ∈ (b ++ cs).head?, ¬ isDigit c := by
  cases b with
  | nil => exact hcs
  | cons c b =>
    intro d hd
    obtain rfl : c = d := by simpa using hd
    exact not_isDigit_of_isBlank (h c List.mem_cons_self)

theorem exists_blanks (cs : List Char) : ∃ b, Blanks b ∧ cs = b ++ trimLeft cs :=
  ⟨cs.takeWhile isBlank, fun _ => mem_takeWhile, List.takeWhile_append_dropWhile.symm⟩

theorem digits_takeWhile (h : (!(cs.takeWhile isDigit).isEmpty) = true) :
    Digits (cs.takeWhile isDigit) := by
  refine ⟨?_, fun _ => mem_takeWhile⟩
  simpa using h

/-- **Reading a ratio** finds its two sides. -/
theorem readRatio?_eq_some_iff : readRatio? cs = some (left, right) ↔ RatioOf cs left right := by
  constructor
  · intro h
    unfold readRatio? at h
    dsimp only at h
    split at h
    · rename_i cs' hslash
      split_ifs at h with hsides
      cases h
      simp only [Bool.and_eq_true] at hsides
      obtain ⟨⟨hleft, hright⟩, hrest⟩ := hsides
      obtain ⟨a, ha, hcs⟩ := exists_blanks cs
      obtain ⟨b, hb, hmid⟩ := exists_blanks ((trimLeft cs).dropWhile isDigit)
      obtain ⟨c, hc, hcs'⟩ := exists_blanks cs'
      refine ⟨a, b, c, _, ha, hb, hc, List.all_eq_true.1 hrest, digits_takeWhile hleft,
        digits_takeWhile hright, ?_⟩
      rw [List.takeWhile_append_dropWhile, ← hcs', ← hslash, ← hmid,
        List.takeWhile_append_dropWhile, ← hcs]
    · cases h
  · rintro ⟨a, b, c, d, ha, hb, hc, hd, hleft, hright, rfl⟩
    have hslash : ∀ e ∈ ('/' :: (c ++ (right ++ d))).head?, ¬ isDigit e := by
      intro e he
      obtain rfl : '/' = e := by simpa using he
      decide
    have hslash' : ∀ e ∈ ('/' :: (c ++ (right ++ d))).head?, ¬ isBlank e := by
      intro e he
      obtain rfl : '/' = e := by simpa using he
      decide
    have hend : ∀ e ∈ (d ++ []).head?, ¬ isDigit e := hd.head? (by simp)
    rw [List.append_nil] at hend
    have hleft' : left.isEmpty = false := by simpa using hleft.1
    have hright' : right.isEmpty = false := by simpa using hright.1
    have hblank : d.all isBlank := List.all_eq_true.2 hd
    -- each piece is cut off where its class of characters ends
    have h1 : trimLeft (a ++ (left ++ (b ++ '/' :: (c ++ (right ++ d))))) =
        left ++ (b ++ '/' :: (c ++ (right ++ d))) := dropWhile_append_stop ha hleft.head?
    have h2 : trimLeft (b ++ '/' :: (c ++ (right ++ d))) = '/' :: (c ++ (right ++ d)) :=
      dropWhile_append_stop hb hslash'
    have h3 : trimLeft (c ++ (right ++ d)) = right ++ d := dropWhile_append_stop hc hright.head?
    unfold readRatio?
    dsimp only
    rw [h1, dropWhile_append_stop hleft.2 (hb.head? hslash),
      takeWhile_append_stop hleft.2 (hb.head? hslash), h2]
    simp only [h3]
    rw [takeWhile_append_stop hright.2 hend, dropWhile_append_stop hright.2 hend]
    simp [hleft', hright', hblank]

/-! ### Quotients -/

/-- Sides that make no number: one of too many digits, or a quotient that overflows. -/
def Exceeds (left right : List Char) : Prop :=
  Numeral.digitLimit < left.length ∨ Numeral.digitLimit < right.length ∨
    Numeral.digitsValue right ≠ 0 ∧
      overflow * Numeral.digitsValue right ≤ Numeral.digitsValue left

/-- **A quotient has a number** unless its sides exceed what is read. -/
theorem exists_quotient_iff (left right : List Char) :
    (∃ x, quotient left right = .ok x) ↔ ¬ Exceeds left right := by
  unfold quotient sideValue Exceeds
  by_cases hleft : Numeral.digitLimit < left.length
  · simp [hleft]
  by_cases hright : Numeral.digitLimit < right.length
  · simp [hleft, hright]
  simp only [hleft, hright, if_false, false_or, not_and]
  by_cases hzero : Numeral.digitsValue right = 0
  · simp [hzero]
  have hnone := ofQuotient?_eq_none_iff (n := Numeral.digitsValue left) (Nat.pos_of_ne_zero hzero)
  rw [← hnone, if_neg hzero]
  cases ofQuotient? (Numeral.digitsValue left) (Numeral.digitsValue right) <;> simp [hzero]

/-! ### Values as numbers -/

theorem typedNumber?_ofString (s : String) : typedNumber? (.ofString s) = none := rfl

variable {v : Value}

theorem written_of_isWritable (h : v.isWritable) : v.written = .ok v.toText := by
  simp only [Value.written, Value.text?, h, if_true]

theorem lowerText_of_isWritable (h : v.isWritable) :
    lowerText v = .ok (lower v.toText.toList) := by
  rw [lowerText, written_of_isWritable h]
  rfl

theorem isWritable_ofString (s : String) : (Value.ofString s).isWritable := rfl

theorem lowerText_ofString (s : String) : lowerText (.ofString s) = .ok (lower s.toList) :=
  lowerText_of_isWritable (isWritable_ofString s)

/-- The number that a value starts with, by the number and the text of the value. -/
theorem scaled_eq {factor : List Char → Binary64} {x : Binary64} {cs : List Char}
    (hx : leadingNumber v = .ok x) (hcs : lowerText v = .ok cs) :
    scaled factor v = .ok (x.mul (factor cs)) := by
  rw [scaled, hx, hcs]
  rfl

/-- Texts, binary64 numbers, truth values and null; integers are not among them. -/
def Plain (v : Value) : Prop :=
  v = .null ∨ (∃ b, v = .bool b) ∨ (∃ x, v = .float x) ∨ ∃ s, v = .ofString s

/-- A plain value has a text. -/
theorem Plain.isWritable (h : Plain v) : v.isWritable := by
  rcases h with rfl | ⟨b, rfl⟩ | ⟨x, rfl⟩ | ⟨s, rfl⟩ <;> rfl

/-- A plain value with a numeric type has a number. -/
theorem Plain.typedNumber? (h : Plain v) :
    Measure.typedNumber? v = none ∨ ∃ x, Measure.typedNumber? v = some (.ok x) := by
  rcases h with rfl | ⟨b, rfl⟩ | ⟨x, rfl⟩ | ⟨s, rfl⟩
  · exact .inl rfl
  · exact .inr ⟨ofNat b.toNat, rfl⟩
  · exact .inr ⟨x, rfl⟩
  · exact .inl rfl

theorem Plain.exists_leadingNumber (h : Plain v) : ∃ x, leadingNumber v = .ok x := by
  unfold leadingNumber
  rcases h.typedNumber? with hnone | ⟨x, hx⟩
  · rw [hnone, lowerText_of_isWritable h.isWritable]
    exact ⟨_, rfl⟩
  · rw [hx]
    exact ⟨x, rfl⟩

theorem Plain.exists_wholeNumber (h : Plain v) : ∃ x, wholeNumber v = .ok x := by
  unfold wholeNumber
  rcases h.typedNumber? with hnone | ⟨x, hx⟩
  · rw [hnone]
    dsimp only
    split
    · exact ⟨.nan, rfl⟩
    · rw [lowerText_of_isWritable h.isWritable]
      exact ⟨_, rfl⟩
  · rw [hx]
    exact ⟨x, rfl⟩

theorem Plain.exists_scaled (h : Plain v) (factor : List Char → Binary64) :
    ∃ x, scaled factor v = .ok x := by
  obtain ⟨x, hx⟩ := h.exists_leadingNumber
  exact ⟨_, scaled_eq hx (lowerText_of_isWritable h.isWritable)⟩

theorem Plain.exists_pixels (h : Plain v) (root : Binary64) : ∃ x, pixels root v = .ok x :=
  h.exists_scaled (lengthFactor root)

theorem Plain.exists_dotsPerInch (h : Plain v) : ∃ x, dotsPerInch v = .ok x :=
  h.exists_scaled resolutionFactor

theorem Plain.exists_count? (h : Plain v) : ∃ x, count? v = .ok x := by
  obtain ⟨x, hx⟩ := h.exists_wholeNumber
  unfold count?
  rw [hx]
  exact ⟨_, rfl⟩

/-! ### Oversized ratios -/

/-- A text that is a ratio without a number. -/
def Oversized (v : Value) : Prop :=
  ∃ s left right, v = .ofString s ∧ RatioOf (lower s.toList) left right ∧ Exceeds left right

/-- A text that is a ratio is the quotient of its sides as a decimal. -/
theorem decimal_of_ratioOf {s : String} (h : RatioOf (lower s.toList) left right) :
    decimal (.ofString s) = quotient left right := by
  simp only [decimal, typedNumber?_ofString, lowerText_ofString, readRatio?_eq_some_iff.2 h]

/-- A text is a number as a decimal unless it is an oversized ratio. -/
theorem exists_decimal_ofString_iff (s : String) :
    (∃ x, decimal (.ofString s) = .ok x) ↔ ¬ Oversized (.ofString s) := by
  by_cases hratio : ∃ left right, RatioOf (lower s.toList) left right
  · obtain ⟨left, right, hof⟩ := hratio
    rw [decimal_of_ratioOf hof, exists_quotient_iff]
    refine not_congr ⟨fun h => ⟨s, left, right, rfl, hof, h⟩, ?_⟩
    rintro ⟨s', left', right', hs, hof', h⟩
    cases hs
    -- the sides of a ratio are those that are read, so they are the same
    have hsides := (readRatio?_eq_some_iff.2 hof).symm.trans (readRatio?_eq_some_iff.2 hof')
    cases hsides
    exact h
  · have hnone : readRatio? (lower s.toList) = none :=
      Option.eq_none_iff_forall_ne_some.2 fun sides hsides =>
        hratio ⟨sides.1, sides.2, readRatio?_eq_some_iff.1 hsides⟩
    have hplain : Plain (.ofString s) := .inr (.inr (.inr ⟨s, rfl⟩))
    simp only [decimal, typedNumber?_ofString, lowerText_ofString, hnone]
    refine iff_of_true hplain.exists_wholeNumber ?_
    rintro ⟨s', left, right, hs, hof, -⟩
    cases hs
    exact hratio ⟨left, right, hof⟩

/-- **A plain value is a number as a decimal** unless it is an oversized ratio. -/
theorem Plain.exists_decimal_iff (h : Plain v) : (∃ x, decimal v = .ok x) ↔ ¬ Oversized v := by
  have hnot : (∀ s, v ≠ .ofString s) → ¬ Oversized v := by
    rintro hv ⟨s, left, right, hs, -⟩
    exact hv s hs
  rcases h with rfl | ⟨b, rfl⟩ | ⟨x, rfl⟩ | ⟨s, rfl⟩
  · have hdecimal : decimal .null = .ok .nan := by decide
    exact iff_of_true ⟨.nan, hdecimal⟩ (hnot nofun)
  · exact iff_of_true ⟨ofNat b.toNat, rfl⟩ (hnot nofun)
  · exact iff_of_true ⟨x, rfl⟩ (hnot nofun)
  · exact exists_decimal_ofString_iff s

end MediaQuery.Measure
