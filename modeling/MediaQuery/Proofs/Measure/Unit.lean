import MediaQuery.Proofs.Measure.Literal
import MediaQuery.Proofs.Number.Exact
import MediaQuery.Proofs.Text.Casing

/-!
# Units at the end of a text

The unit of a text is looked for at its end, apart from the number at its start. So what counts of
the word behind a number is how it ends: `trailingUnit?_of_word` finds a unit iff the word ends with
one, and `measure_of_word` is the measure of a number with such a word.
-/

namespace MediaQuery.Measure

open Text Numeral Binary64

/-! ### Looking for a unit -/

section Units

variable {α : Type} {units : List (String × α)} {cs : List Char} {scale : α}

/-- Names of units are words, and where one ends with another they stand for the same. -/
structure UnitTable (units : List (String × α)) : Prop where
  words : ∀ unit ∈ units, unit.1.toList ≠ [] ∧ ∀ c ∈ unit.1.toList, isAsciiLetter c
  suffixes : ∀ unit ∈ units, ∀ unit' ∈ units, unit.1.toList <:+ unit'.1.toList → unit.2 = unit'.2

theorem unitAt?_eq_some (h : unitAt? units cs = some scale) :
    ∃ unit ∈ units, unit.2 = scale ∧ ∃ rest, Blanks rest ∧ cs = unit.1.toList ++ rest := by
  obtain ⟨⟨name, scale'⟩, hunit, hscale⟩ := List.exists_of_findSome?_eq_some h
  dsimp only at hscale
  split at hscale
  · rename_i rest hrest
    split_ifs at hscale with hblank
    exact ⟨_, hunit, Option.some.inj hscale, rest, List.all_eq_true.1 hblank,
      afterStart?_eq_some_iff.1 hrest⟩
  · cases hscale

theorem unitAt?_ne_none {unit : String × α} {rest : List Char} (hunit : unit ∈ units)
    (hrest : Blanks rest) : unitAt? units (unit.1.toList ++ rest) ≠ none := by
  intro hnone
  have hat := List.findSome?_eq_none_iff.1 hnone unit hunit
  have hblank : rest.all isBlank := List.all_eq_true.2 hrest
  simp [afterStart?_eq_some_iff.2 rfl, hblank] at hat

/-- A unit that is found stands in front of white space at the end. -/
theorem trailingUnit?_eq_some (h : trailingUnit? units cs = some scale) :
    ∃ unit ∈ units, unit.2 = scale ∧
      ∃ front rest, Blanks rest ∧ cs = front ++ (unit.1.toList ++ rest) := by
  induction cs with
  | nil => cases h
  | cons c cs ih =>
    rw [trailingUnit?, Option.or_eq_some_iff] at h
    rcases h with hat | ⟨-, htail⟩
    · obtain ⟨unit, hunit, hscale, rest, hrest, hcs⟩ := unitAt?_eq_some hat
      exact ⟨unit, hunit, hscale, [], rest, hrest, hcs⟩
    · obtain ⟨unit, hunit, hscale, front, rest, hrest, rfl⟩ := ih htail
      exact ⟨unit, hunit, hscale, c :: front, rest, hrest, rfl⟩

/-- Some unit is found where one stands. -/
theorem trailingUnit?_ne_none {unit : String × α} {front rest : List Char} (hunit : unit ∈ units)
    (hname : unit.1.toList ≠ []) (hrest : Blanks rest) :
    trailingUnit? units (front ++ (unit.1.toList ++ rest)) ≠ none := by
  induction front with
  | nil =>
    have hat := unitAt?_ne_none hunit hrest
    obtain ⟨c, name, hc⟩ := List.exists_cons_of_ne_nil hname
    rw [List.nil_append]
    rw [hc, List.cons_append] at hat ⊢
    rw [trailingUnit?, ne_eq, Option.or_eq_none_iff, not_and_or]
    exact .inl hat
  | cons c front ih =>
    rw [List.cons_append, trailingUnit?, ne_eq, Option.or_eq_none_iff, not_and_or]
    exact .inr ih

/-! ### Units of a word -/

theorem not_isBlank_of_isAsciiLetter {c : Char} (h : isAsciiLetter c) : ¬ isBlank c := by
  intro hb
  have hall : ∀ n ∈ blankCodes, ¬ isAsciiLetter (Char.ofNat n) := by decide
  exact forall_char_mem (P := fun c => ¬ isAsciiLetter c) hall (toNat_mem_blankCodes hb) h

theorem isAsciiLetter_toLower (c : Char) : isAsciiLetter c.toLower = isAsciiLetter c :=
  apply_toLower (by decide) c

theorem not_isAsciiLetter_of_isDigit {c : Char} (h : isDigit c) : ¬ isAsciiLetter c := by
  intro hc
  have hmem : c.toNat ∈ List.range' 65 58 := by
    simp only [isAsciiLetter, Bool.or_eq_true, Bool.and_eq_true, decide_eq_true_eq] at hc
    rw [List.mem_range'_1]
    rcases hc with ⟨hlow, hhigh⟩ | ⟨hlow, hhigh⟩
    · have hlow' : 97 ≤ c.toNat := hlow
      have hhigh' : c.toNat ≤ 122 := hhigh
      omega
    · have hlow' : 65 ≤ c.toNat := hlow
      have hhigh' : c.toNat ≤ 90 := hhigh
      omega
  exact forall_char_mem (P := fun c => ¬ isDigit c) (by decide) hmem h

section Word

variable {front word after : List Char}
  (hfront : ∃ c, front.getLast? = some c ∧ ¬ isAsciiLetter c ∧ ¬ isBlank c)
  (hword : ∀ c ∈ word, isAsciiLetter c) (hafter : Blanks after)

include hfront hword hafter

/-- A name in front of white space at the end is an end of the word. -/
theorem suffix_of_name {pre name rest : List Char} (hne : name ≠ [])
    (hname : ∀ c ∈ name, isAsciiLetter c) (hrest : Blanks rest)
    (h : front ++ (word ++ after) = pre ++ (name ++ rest)) : name <:+ word := by
  obtain ⟨d, hd, hletter, hblank⟩ := hfront
  have hends : ∀ c ∈ (front ++ word).getLast?, ¬ isBlank c := by
    intro c hc
    rw [List.getLast?_append, hd] at hc
    cases hlast : word.getLast? with
    | none =>
      rw [hlast] at hc
      obtain rfl : d = c := by simpa using hc
      exact hblank
    | some e =>
      rw [hlast] at hc
      obtain rfl : e = c := by simpa using hc
      exact not_isBlank_of_isAsciiLetter (hword e (List.mem_of_getLast? hlast))
  have hends' : ∀ c ∈ (pre ++ name).getLast?, ¬ isBlank c := by
    intro c hc
    rw [List.getLast?_append_of_ne_nil pre hne] at hc
    exact not_isBlank_of_isAsciiLetter (hname c (List.mem_of_getLast? hc))
  -- without the white space at the end, both cuts are of the same text
  have hcut : front ++ word = pre ++ name := by
    have htrim := congrArg trimRight h
    rwa [← List.append_assoc, ← List.append_assoc, trimRight_append_right hafter,
      trimRight_append_right hrest, trimRight_eq_self hends, trimRight_eq_self hends'] at htrim
  rcases List.append_eq_append_iff.1 hcut with ⟨x, rfl, rfl⟩ | ⟨x, rfl, rfl⟩
  · exact List.suffix_append x name
  · cases x using List.reverseRecOn with
    | nil => exact List.suffix_rfl
    | append_singleton x e =>
      -- the name would hold the last character in front of the word, which is no letter
      rw [← List.append_assoc, List.getLast?_concat] at hd
      obtain rfl := Option.some.inj hd
      exact absurd (hname e (by simp)) hletter

/-- **The unit of a word** is one that the word ends with, if there is any. -/
theorem trailingUnit?_of_word (htable : UnitTable units) :
    (∀ unit ∈ units, unit.1.toList <:+ word →
      trailingUnit? units (front ++ (word ++ after)) = some unit.2) ∧
    ((∀ unit ∈ units, ¬ unit.1.toList <:+ word) →
      trailingUnit? units (front ++ (word ++ after)) = none) := by
  have hsuffix : ∀ scale, trailingUnit? units (front ++ (word ++ after)) = some scale →
      ∃ unit ∈ units, unit.2 = scale ∧ unit.1.toList <:+ word := by
    intro scale hscale
    obtain ⟨unit, hunit, hunitscale, pre, rest, hrest, hcut⟩ := trailingUnit?_eq_some hscale
    obtain ⟨hne, hletters⟩ := htable.words unit hunit
    exact ⟨unit, hunit, hunitscale,
      suffix_of_name hfront hword hafter hne hletters hrest hcut⟩
  constructor
  · intro unit hunit hend
    obtain ⟨x, rfl⟩ := hend
    have hsome : trailingUnit? units (front ++ x ++ (unit.1.toList ++ after)) ≠ none :=
      trailingUnit?_ne_none hunit (htable.words unit hunit).1 hafter
    have htext : front ++ x ++ (unit.1.toList ++ after) =
        front ++ (x ++ unit.1.toList ++ after) := by
      simp
    rw [htext] at hsome
    obtain ⟨scale, hscale⟩ := Option.ne_none_iff_exists'.1 hsome
    obtain ⟨unit', hunit', rfl, hend'⟩ := hsuffix scale hscale
    rw [hscale, Option.some.injEq]
    -- of two ends of one word the shorter is an end of the longer
    rcases List.suffix_or_suffix_of_suffix (List.suffix_append x unit.1.toList) hend' with h | h
    · exact (htable.suffixes unit hunit unit' hunit' h).symm
    · exact htable.suffixes unit' hunit' unit hunit h
  · intro hnone
    by_contra hsome
    obtain ⟨scale, hscale⟩ := Option.ne_none_iff_exists'.1 hsome
    obtain ⟨unit, hunit, -, hend⟩ := hsuffix scale hscale
    exact hnone unit hunit hend

end Word

end Units

/-! ### Letter case -/

/-- White space has no other letter case. -/
theorem lowerChar_of_isBlank {c : Char} (h : isBlank c) :
    c ≠ capitalSigma ∧ lowerChar c = [c.toLower] := by
  have hall : ∀ n ∈ blankCodes, Char.ofNat n ≠ capitalSigma ∧
      lowerChar (Char.ofNat n) = [(Char.ofNat n).toLower] := by decide
  exact forall_char_mem (P := fun c => c ≠ capitalSigma ∧ lowerChar c = [c.toLower]) hall
    (toNat_mem_blankCodes h)

/-- No mapping of the case tables is of a decimal digit. -/
theorem decimalZeros_uncased : ∀ z ∈ decimalZeros,
    (∀ row ∈ lowerRows, z + 9 < row.1 ∨ row.2.1 < z) ∧
      ∀ row ∈ lowerSequences, z + 9 < row.1 ∨ row.1 < z := by
  have hall : (decimalZeros.all fun z =>
      (lowerRows.all fun row => Nat.blt (z + 9) row.1 || Nat.blt row.2.1 z) &&
        lowerSequences.all fun row => Nat.blt (z + 9) row.1 || Nat.blt row.1 z) = true := by
    decide +kernel
  simpa only [List.all_eq_true, Bool.and_eq_true, Bool.or_eq_true, Nat.blt_eq] using hall

/-- Digits have no other letter case. -/
theorem lowerChar_of_isDigit {c : Char} (h : isDigit c) :
    c ≠ capitalSigma ∧ lowerChar c = [c.toLower] := by
  rcases Nat.lt_or_ge c.toNat 128 with hlt | hge
  · exact lowerChar_of_ascii hlt
  · have hdigit := h
    rw [isDigit, digitValue?, Option.isSome_map, List.find?_isSome] at h
    obtain ⟨z, hz, hrange⟩ := h
    simp only [Bool.and_eq_true, decide_eq_true_eq] at hrange
    obtain ⟨hrows, hsequences⟩ := decimalZeros_uncased z hz
    rw [toLower_eq_self (by decide) hdigit]
    rw [lowerChar_eq_caseForm hge]
    refine ⟨?_, caseForm_eq_self (fun row hrow => ?_) fun row hrow => ?_⟩
    · rintro rfl
      exact absurd hdigit (by decide)
    · have := hrows row hrow
      omega
    · have := hsequences row hrow
      omega

theorem Blanks.map_toLower {b : List Char} (h : Blanks b) : b.map Char.toLower = b :=
  map_toLower_eq_self (by decide) h

section Text

variable {before literal word after : List Char} {n : Numeral}
  (hbefore : Blanks before) (hliteral : LiteralOf literal n) (hword : ∀ c ∈ word, isAsciiLetter c)
  (hafter : Blanks after)

include hbefore hliteral hword hafter

/-- A number and a word between white space, in lower case. -/
theorem lowerText_word :
    lowerText (.ofString (String.ofList (before ++ (literal ++ (word ++ after))))) =
      .ok (before ++ (literal.map Char.toLower ++ (word.map Char.toLower ++ after))) := by
  have hmarks : ∀ c ∈ ['+', '-', '.', 'e', 'E'], c.toNat < 128 := by decide
  rw [lowerText_ofString, String.toList_ofList, lower_of_letters]
  · simp only [List.map_append, hbefore.map_toLower, hafter.map_toLower]
  · simp only [List.forall_mem_append]
    refine ⟨fun c hc => lowerChar_of_isBlank (hbefore c hc), fun c hc => ?_,
      fun c hc => lowerChar_of_ascii (toNat_lt_of_isAsciiLetter (hword c hc)),
      fun c hc => lowerChar_of_isBlank (hafter c hc)⟩
    rcases hliteral.mem c hc with hdigit | hmark
    · exact lowerChar_of_isDigit hdigit
    · exact lowerChar_of_ascii (hmarks c hmark)

/-! ### Measures of a number and a word -/

/-- The number is read, whatever the word. -/
theorem leadingNumber_word :
    leadingNumber (.ofString (String.ofList (before ++ (literal ++ (word ++ after))))) =
      .ok n.value := by
  have hletter : ∀ c : Char, isAsciiLetter c → ¬ isDigit c ∧ c ∉ ['+', '-', '.'] := by
    intro c hc
    have hall : ∀ c ∈ ['+', '-', '.'], ¬ isAsciiLetter c := by decide
    exact ⟨fun hdigit => not_isAsciiLetter_of_isDigit hdigit hc, fun hmark => hall c hmark hc⟩
  have hblank : ∀ c : Char, isBlank c → ¬ isDigit c ∧ c ∉ ['+', '-', '.'] := by
    intro c hc
    have hall : ∀ c ∈ ['+', '-', '.'], ¬ isBlank c := by decide
    exact ⟨not_isDigit_of_isBlank hc, fun hmark => hall c hmark hc⟩
  have hrest : NoNumber (word.map Char.toLower ++ after) := by
    refine List.forall_mem_append.2 ⟨fun c hc => ?_, fun c hc => hblank c (hafter c hc)⟩
    obtain ⟨d, hd, rfl⟩ := List.mem_map.1 hc
    exact hletter _ (isAsciiLetter_toLower d ▸ hword d hd)
  have hstart : ∀ c ∈ (literal.map Char.toLower ++ (word.map Char.toLower ++ after)).head?,
      ¬ isBlank c := hliteral.toLower.head?_not_blank
  have hread := hliteral.toLower.read?_append hrest
  rw [leadingNumber, typedNumber?_ofString]
  simp only [lowerText_word hbefore hliteral hword hafter, Except.map, numberAtStart]
  rw [trimLeft, dropWhile_append_stop hbefore hstart, hread]

omit hbefore in
/-- **The unit of a measure** is one that the word ends with, if there is any. -/
theorem trailingUnit?_word {α : Type} {units : List (String × α)} (htable : UnitTable units) :
    let text := before ++ (literal.map Char.toLower ++ (word.map Char.toLower ++ after))
    (∀ unit ∈ units, unit.1.toList <:+ word.map Char.toLower →
      trailingUnit? units text = some unit.2) ∧
    ((∀ unit ∈ units, ¬ unit.1.toList <:+ word.map Char.toLower) →
      trailingUnit? units text = none) := by
  intro text
  have hfront : ∃ c, (before ++ literal.map Char.toLower).getLast? = some c ∧
      ¬ isAsciiLetter c ∧ ¬ isBlank c := by
    obtain ⟨c, hc, hdigit⟩ := hliteral.toLower.getLast?
    refine ⟨c, ?_, ?_⟩
    · rw [List.getLast?_append, hc]
      rfl
    · rcases hdigit with hdigit | rfl
      · exact ⟨not_isAsciiLetter_of_isDigit hdigit, fun hb => not_isDigit_of_isBlank hb hdigit⟩
      · decide
  have hletters : ∀ c ∈ word.map Char.toLower, isAsciiLetter c := by
    intro c hc
    obtain ⟨d, hd, rfl⟩ := List.mem_map.1 hc
    exact isAsciiLetter_toLower d ▸ hword d hd
  have htext : text = before ++ literal.map Char.toLower ++ (word.map Char.toLower ++ after) :=
    (List.append_assoc ..).symm
  rw [htext]
  exact trailingUnit?_of_word hfront hletters hafter htable

end Text

theorem unitTable_lengthUnits : UnitTable lengthUnits := ⟨by decide, by decide +kernel⟩

theorem unitTable_resolutionUnits : UnitTable resolutionUnits :=
  ⟨by decide, by decide +kernel⟩

/-- A unit that stands for itself changes nothing. -/
theorem mul_ofNat_one (x : Binary64) : x.mul (ofNat 1) = x := by
  have hunit : ofNat 1 = .finite false (.ofNat 1 (pow2_pos 53)) := by decide +kernel
  rw [hunit]
  exact mul_one x

/-- A number literal. -/
def Literal (cs : List Char) : Prop := ∃ n, LiteralOf cs n

/-- In lower case the word ends with a name. -/
def EndsWith (word : List Char) (name : String) : Prop :=
  name.toList <:+ word.map Char.toLower

/--
**The measure of a number and a word** behind it, between white space. The number is multiplied by
the unit that the word ends with, which need not be the whole word; if it ends with no unit, the
number is the measure.
-/
theorem measure_of_word (root : Binary64) {before literal word after : List Char}
    (hbefore : Blanks before) (hliteral : Literal literal) (hword : ∀ c ∈ word, isAsciiLetter c)
    (hafter : Blanks after) :
    let v : Value := .ofString (String.ofList (before ++ (literal ++ (word ++ after))))
    ∃ x, number? literal = some x ∧
      (∀ unit ∈ lengthUnits, EndsWith word unit.1 →
        pixels root v = .ok (x.mul (unit.2.factor root))) ∧
      ((∀ unit ∈ lengthUnits, ¬ EndsWith word unit.1) → pixels root v = .ok x) ∧
      (∀ unit ∈ resolutionUnits, EndsWith word unit.1 → dotsPerInch v = .ok (x.mul unit.2)) ∧
      ((∀ unit ∈ resolutionUnits, ¬ EndsWith word unit.1) → dotsPerInch v = .ok x) := by
  dsimp only
  obtain ⟨n, hn⟩ := hliteral
  have hnumber := leadingNumber_word hbefore hn hword hafter
  have htext := lowerText_word hbefore hn hword hafter
  obtain ⟨hlength, hnolength⟩ := trailingUnit?_word hn hword hafter unitTable_lengthUnits
  obtain ⟨hdots, hnodots⟩ := trailingUnit?_word hn hword hafter unitTable_resolutionUnits
  refine ⟨n.value, hn.number?_eq, fun unit hunit hend => ?_, fun hnone => ?_,
    fun unit hunit hend => ?_, fun hnone => ?_⟩
  · rw [pixels, scaled_eq hnumber htext, lengthFactor, hlength unit hunit hend]
    rfl
  · rw [pixels, scaled_eq hnumber htext, lengthFactor, hnolength hnone, Option.map_none,
      Option.getD_none, mul_ofNat_one]
  · rw [dotsPerInch, scaled_eq hnumber htext, resolutionFactor, hdots unit hunit hend]
    rfl
  · rw [dotsPerInch, scaled_eq hnumber htext, resolutionFactor, hnodots hnone, Option.getD_none,
      mul_ofNat_one]

/-- Capitals, white space and a number with an exponent in front of a unit. -/
theorem measure_of_word_inches :
    (Blanks ['\t'] ∧ Literal "+1.5E1".toList ∧ (∀ c ∈ "IN".toList, isAsciiLetter c) ∧
      Blanks [' ']) ∧
    number? "+1.5E1".toList = some (ofNat 15) ∧
    pixels (ofNat 16) (.ofString "\t+1.5E1IN ") = .ok ((ofNat 15).mul pixelsPerInch) := by
  have hbefore : Blanks ['\t'] := by
    unfold Blanks
    decide
  have hafter : Blanks [' '] := by
    unfold Blanks
    decide
  have hdigits : Digits ['1', '5'] := ⟨by decide, by decide⟩
  have hpower : Digits ['1'] := ⟨by decide, by decide⟩
  have hliteral : Literal "+1.5E1".toList :=
    ⟨_, .mk .plus (@DecimalOf.point ['1'] ['5'] hdigits) (.some (.inr rfl) .none hpower)⟩
  have hword : ∀ c ∈ "IN".toList, isAsciiLetter c := by decide
  have hend : EndsWith "IN".toList "in" := by
    unfold EndsWith
    decide
  have hnumber : number? "+1.5E1".toList = some (ofNat 15) := by decide +kernel
  obtain ⟨x, hx, hlength, -⟩ := measure_of_word (ofNat 16) hbefore hliteral hword hafter
  rw [hnumber, Option.some.injEq] at hx
  rw [← hx] at hlength
  have hunit : ("in", .pixels pixelsPerInch) ∈ lengthUnits := by decide +kernel
  have htext : String.ofList (['\t'] ++ ("+1.5E1".toList ++ ("IN".toList ++ [' ']))) =
      "\t+1.5E1IN " := by decide
  have hpixels := hlength _ hunit hend
  rw [htext, LengthScale.factor] at hpixels
  exact ⟨⟨hbefore, hliteral, hword, hafter⟩, hnumber, hpixels⟩

/-- Words that are no units, and are read as inches and as dots per pixel for their ends. -/
theorem measure_of_longer_word :
    (Literal "10".toList ∧ number? "10".toList = some (ofNat 10)) ∧
    (Literal "2".toList ∧ number? "2".toList = some (ofNat 2)) ∧
    ("vmin" ∉ lengthUnits.map (·.1) ∧ "max" ∉ resolutionUnits.map (·.1)) ∧
    (pixels (ofNat 16) (.ofString "10vmin") = .ok (ofNat 960) ∧ ofNat 960 ≠ ofNat 10) ∧
    (dotsPerInch (.ofString "2max") = .ok (ofNat 192) ∧ ofNat 192 ≠ ofNat 2) := by
  have hdigits : Digits "10".toList ∧ Digits "2".toList :=
    ⟨⟨by decide, by decide⟩, ⟨by decide, by decide⟩⟩
  have hten : Literal "10".toList := ⟨_, .mk .none (.whole hdigits.1) .none⟩
  have htwo : Literal "2".toList := ⟨_, .mk .none (.whole hdigits.2) .none⟩
  refine ⟨⟨hten, ?_⟩, ⟨htwo, ?_⟩, ⟨by decide, by decide⟩, ⟨?_, ?_⟩, ?_, ?_⟩
  all_goals decide +kernel

end MediaQuery.Measure
