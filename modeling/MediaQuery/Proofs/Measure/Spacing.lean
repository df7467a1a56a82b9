import MediaQuery.Proofs.Measure.Numeric
import MediaQuery.Proofs.Measure.Quotient

/-!
# White space around a value

White space around a text is skipped by every reader of measures, each in its own way: numbers and
ratios skip it on the way, units are looked for in front of it, and whole numbers are trimmed first.
What the text is does not matter, so the same holds of texts that are malformed. Letter case is gone
before anything is read. Together that makes `sameMeasures_of_rewritten`.
-/

namespace MediaQuery

namespace Text

variable {p : Char → Bool} {cs b : List Char}

/-! ### Text behind a class of characters -/

theorem takeWhile_append_right (hb : ∀ c ∈ b.head?, ¬ p c) :
    (cs ++ b).takeWhile p = cs.takeWhile p := by
  rw [← List.takeWhile_append_dropWhile (p := p) (l := cs), List.append_assoc]
  refine (takeWhile_append_stop (fun c => mem_takeWhile) fun c hc => ?_).trans
    (takeWhile_append_stop (fun c => mem_takeWhile) (head?_dropWhile p cs)).symm
  cases hrest : cs.dropWhile p with
  | nil => exact hb c (by simpa [hrest] using hc)
  | cons d rest => exact head?_dropWhile p cs c (by simpa [hrest] using hc)

theorem dropWhile_append_right (hb : ∀ c ∈ b.head?, ¬ p c) :
    (cs ++ b).dropWhile p = cs.dropWhile p ++ b := by
  rw [List.dropWhile_append]
  split_ifs with h
  · rw [List.isEmpty_iff.1 h, dropWhile_eq_self hb, List.nil_append]
  · rfl

theorem afterStart?_append_right {start : List Char}
    (h : ∀ c ∈ b.head?, c ∉ start) :
    afterStart? start (cs ++ b) = (afterStart? start cs).map (· ++ b) := by
  induction start generalizing cs with
  | nil => rfl
  | cons d start ih =>
    cases cs with
    | nil =>
      cases b with
      | nil => rfl
      | cons c b =>
        have hne : d ≠ c := fun he => h c rfl (by simp [he])
        simp [afterStart?, hne]
    | cons c cs =>
      rw [List.cons_append, afterStart?, afterStart?]
      split_ifs
      · exact ih fun e he hm => h e he (List.mem_cons_of_mem d hm)
      · rfl

/-! ### ASCII texts in either letter case -/

theorem SameLetters.ascii {ds : List Char} (h : SameLetters cs ds)
    (hcs : ∀ c ∈ cs, c.toNat < 128) : ∀ d ∈ ds, d.toNat < 128 := by
  have hlower : ∀ c : Char, c.toLower.toNat < 128 ↔ c.toNat < 128 := fun c =>
    decide_eq_decide.1 (apply_toLower (f := fun c => decide (c.toNat < 128)) (by decide) c)
  intro d hd
  have hmem : d.toLower ∈ cs.map Char.toLower := by
    rw [h]
    exact List.mem_map_of_mem hd
  obtain ⟨c, hc, hcd⟩ := List.mem_map.1 hmem
  rw [← hlower d, ← hcd, hlower c]
  exact hcs c hc

end Text

namespace Measure

open Text Numeral

variable {cs a b : List Char}

/-! ### Numerals -/

/-- White space starts with no character of a numeral. -/
theorem Blanks.head?_not_mark (hb : Blanks b) :
    ∀ c ∈ b.head?, ¬ isDigit c ∧ c ∉ ['+', '-', '.', 'e', 'E'] := by
  intro c hc
  have hblank := hb c (List.mem_of_mem_head? hc)
  have hall : ∀ c ∈ ['+', '-', '.', 'e', 'E'], ¬ isBlank c := by decide
  exact ⟨not_isDigit_of_isBlank hblank, fun hmark => hall c hmark hblank⟩

theorem readSign_append_blanks (hb : Blanks b) :
    readSign (cs ++ b) = ((readSign cs).1, (readSign cs).2 ++ b) := by
  cases cs with
  | nil =>
    refine readSign_append .none fun c hc hmem => (hb.head?_not_mark c hc).2 ?_
    simp only [List.mem_cons, List.not_mem_nil, or_false] at hmem ⊢
    tauto
  | cons c cs =>
    rw [List.cons_append]
    unfold readSign
    split <;> simp_all

theorem readFraction_append_blanks (hb : Blanks b) :
    readFraction (cs ++ b) = ((readFraction cs).1, (readFraction cs).2 ++ b) := by
  have hstop : ∀ c ∈ b.head?, ¬ isDigit c := fun c hc => (hb.head?_not_mark c hc).1
  cases cs with
  | nil =>
    rw [List.nil_append]
    unfold readFraction
    split
    · exact absurd (by simp) (hb.head?_not_mark '.' rfl).2
    · rfl
  | cons c cs =>
    rw [List.cons_append]
    by_cases hc : c = '.'
    · subst hc
      simp only [readFraction, takeWhile_append_right hstop, dropWhile_append_right hstop]
    · simp [readFraction, hc]

theorem readExponent_append_blanks (hb : Blanks b) :
    readExponent (cs ++ b) = ((readExponent cs).1, (readExponent cs).2 ++ b) := by
  have hstop : ∀ c ∈ b.head?, ¬ isDigit c := fun c hc => (hb.head?_not_mark c hc).1
  cases cs with
  | nil =>
    cases b with
    | nil => rfl
    | cons c b =>
      have hletter : ¬ (c = 'e' ∨ c = 'E') := fun he =>
        (hb.head?_not_mark c rfl).2 (by rcases he with rfl | rfl <;> simp)
      simp [readExponent, hletter]
  | cons c cs =>
    rw [List.cons_append, readExponent, readExponent]
    split_ifs with hletter
    · simp only [readSign_append_blanks hb, takeWhile_append_right hstop,
        dropWhile_append_right hstop]
      split_ifs <;> rfl
    · rfl

/-- **A numeral is read the same** in front of white space. -/
theorem read?_append_blanks (hb : Blanks b) :
    Numeral.read? (cs ++ b) = (Numeral.read? cs).map fun p => (p.1, p.2 ++ b) := by
  have hstop : ∀ c ∈ b.head?, ¬ isDigit c := fun c hc => (hb.head?_not_mark c hc).1
  rw [read?_eq, read?_eq]
  simp only [readSign_append_blanks hb, takeWhile_append_right hstop, dropWhile_append_right hstop,
    readFraction_append_blanks hb, readExponent_append_blanks hb]
  split_ifs <;> rfl

/-! ### Units -/

section Units

variable {α : Type} {units : List (String × α)} (htable : UnitTable units)

include htable

theorem unitAt?_append_blanks (hb : Blanks b) : unitAt? units (cs ++ b) = unitAt? units cs := by
  have hwords := htable.words
  clear htable
  unfold unitAt?
  induction units with
  | nil => rfl
  | cons unit units ih =>
    obtain ⟨name, scale⟩ := unit
    obtain ⟨hunit, hunits⟩ := List.forall_mem_cons.1 hwords
    have hstart : ∀ c ∈ b.head?, c ∉ name.toList := fun c hc hm =>
      not_isBlank_of_isAsciiLetter (hunit.2 c hm) (hb c (List.mem_of_mem_head? hc))
    have hall : ∀ rest : List Char, (rest ++ b).all isBlank = rest.all isBlank := by
      intro rest
      rw [List.all_append, List.all_eq_true.2 hb, Bool.and_true]
    rw [List.findSome?_cons, List.findSome?_cons, ih hunits]
    dsimp only
    rw [afterStart?_append_right hstart]
    cases afterStart? name.toList cs with
    | none => rfl
    | some rest => simp only [Option.map_some, hall]

theorem unitAt?_blank {c : Char} (hc : isBlank c) : unitAt? units (c :: cs) = none := by
  by_contra hsome
  obtain ⟨scale, hscale⟩ := Option.ne_none_iff_exists'.1 hsome
  obtain ⟨unit, hunit, -, rest, -, htext⟩ := unitAt?_eq_some hscale
  obtain ⟨hne, hletters⟩ := htable.words unit hunit
  obtain ⟨d, name, hname⟩ := List.exists_cons_of_ne_nil hne
  rw [hname, List.cons_append] at htext
  obtain ⟨rfl, -⟩ := List.cons.inj htext
  exact not_isBlank_of_isAsciiLetter (hletters c (by simp [hname])) hc

theorem trailingUnit?_blanks (hb : Blanks b) : trailingUnit? units b = none := by
  induction b with
  | nil => rfl
  | cons c b ih =>
    obtain ⟨hc, hb'⟩ := List.forall_mem_cons.1 hb
    rw [trailingUnit?, unitAt?_blank htable hc, ih hb', Option.or_none]

/-- **The unit of a text is the same** between white space. -/
theorem trailingUnit?_surrounded (ha : Blanks a) (hb : Blanks b) :
    trailingUnit? units (a ++ (cs ++ b)) = trailingUnit? units cs := by
  have hright : trailingUnit? units (cs ++ b) = trailingUnit? units cs := by
    induction cs with
    | nil => exact trailingUnit?_blanks htable hb
    | cons c cs ih =>
      rw [List.cons_append, trailingUnit?, trailingUnit?, ih, ← List.cons_append,
        unitAt?_append_blanks htable hb]
  induction a with
  | nil => exact hright
  | cons c a ih =>
    obtain ⟨hc, ha'⟩ := List.forall_mem_cons.1 ha
    rw [List.cons_append, trailingUnit?, unitAt?_blank htable hc, Option.none_or, ih ha']

end Units

/-! ### Readers of texts -/

theorem trim_surrounded (ha : Blanks a) (hb : Blanks b) : trim (a ++ (cs ++ b)) = trim cs := by
  rw [trim_append_left ha, trim_append_right hb]

/-- The text and the white space that trimming takes off. -/
theorem exists_surrounded (cs : List Char) :
    ∃ a b, Blanks a ∧ Blanks b ∧ cs = a ++ (trim cs ++ b) := by
  obtain ⟨a, ha, hcs⟩ := exists_blanks cs
  obtain ⟨b, hb, hright⟩ := exists_trimRight (trimLeft cs)
  exact ⟨a, b, ha, hb, hcs.trans (congrArg (a ++ ·) hright)⟩

/-- The numeral that a text starts with, behind white space. -/
theorem read?_surrounded (ha : Blanks a) (hb : Blanks b) :
    (Numeral.read? (trimLeft (a ++ (cs ++ b)))).map Prod.fst =
      (Numeral.read? (trimLeft cs)).map Prod.fst := by
  rw [trimLeft, List.dropWhile_append_of_pos ha, List.dropWhile_append, ← trimLeft]
  split_ifs with h
  · rw [List.isEmpty_iff.1 h, List.dropWhile_eq_nil_iff.2 hb]
  · rw [read?_append_blanks hb, Option.map_map]
    rfl

theorem number?_surrounded (ha : Blanks a) (hb : Blanks b) :
    number? (a ++ (cs ++ b)) = number? cs := by
  rw [number?, number?, trim_surrounded ha hb]

theorem RatioOf.surround {left right : List Char} (h : RatioOf cs left right) (ha : Blanks a)
    (hb : Blanks b) : RatioOf (a ++ (cs ++ b)) left right := by
  obtain ⟨a', b', c', d', ha', hb', hc', hd', hleft, hright, rfl⟩ := h
  exact ⟨a ++ a', b', c', d' ++ b, List.forall_mem_append.2 ⟨ha, ha'⟩, hb', hc',
    List.forall_mem_append.2 ⟨hd', hb⟩, hleft, hright, by simp⟩

/-- **The sides of a ratio are the same** between white space. -/
theorem readRatio?_surrounded (ha : Blanks a) (hb : Blanks b) :
    readRatio? (a ++ (cs ++ b)) = readRatio? cs := by
  refine Option.ext fun sides => ?_
  rw [readRatio?_eq_some_iff, readRatio?_eq_some_iff]
  refine ⟨fun h => ?_, fun h => h.surround ha hb⟩
  obtain ⟨a', b', ha', hb', hcs⟩ := exists_surrounded cs
  rw [hcs]
  have htrim := h.trim
  rw [trim_surrounded ha hb] at htrim
  exact htrim.surround ha' hb'

/-! ### Texts that are written in another way -/

/-- The same text in another letter case, with white space around it. -/
def Rewritten (cs cs' : List Char) : Prop :=
  ∃ a t b, Blanks a ∧ Blanks b ∧ SameLetters cs t ∧ cs' = a ++ (t ++ b)

theorem lower_surrounded (ha : Blanks a) (hb : Blanks b) (hcs : ∀ c ∈ cs, c.toNat < 128) :
    lower (a ++ (cs ++ b)) = a ++ (lower cs ++ b) := by
  rw [lower_of_ascii hcs, lower_of_letters]
  · simp only [List.map_append, ha.map_toLower, hb.map_toLower]
  · simp only [List.forall_mem_append]
    exact ⟨fun c hc => lowerChar_of_isBlank (ha c hc), fun c hc => lowerChar_of_ascii (hcs c hc),
      fun c hc => lowerChar_of_isBlank (hb c hc)⟩

/-- In lower case an ASCII text differs from another way to write it by white space only. -/
theorem Rewritten.exists_lower {cs' : List Char} (h : Rewritten cs cs')
    (hcs : ∀ c ∈ cs, c.toNat < 128) :
    ∃ a b, Blanks a ∧ Blanks b ∧ lower cs' = a ++ (lower cs ++ b) := by
  obtain ⟨a, t, b, ha, hb, hletters, rfl⟩ := h
  exact ⟨a, b, ha, hb, by rw [lower_surrounded ha hb (hletters.ascii hcs), hletters.lower_eq]⟩

theorem numberAtStart_surrounded (ha : Blanks a) (hb : Blanks b) :
    numberAtStart (a ++ (cs ++ b)) = numberAtStart cs := by
  have hvalue : ∀ cs, numberAtStart cs =
      ((Numeral.read? (trimLeft cs)).map Prod.fst).elim .nan Numeral.value := by
    intro cs
    unfold numberAtStart
    cases Numeral.read? (trimLeft cs) <;> rfl
  rw [hvalue, hvalue, read?_surrounded ha hb]

/-- The measure of a text with a unit at the end. -/
theorem scaled_ofString (factor : List Char → Binary64) (s : String) :
    scaled factor (.ofString s) =
      .ok ((numberAtStart (lower s.toList)).mul (factor (lower s.toList))) := by
  have htext := lowerText_ofString s
  refine scaled_eq ?_ htext
  rw [leadingNumber, typedNumber?_ofString, htext]
  rfl

/-- **An ASCII text has the same measures** in either letter case and with white space around it. -/
theorem sameMeasures_of_rewritten {s s' : String} (h : Rewritten s.toList s'.toList)
    (hs : ∀ c ∈ s.toList, c.toNat < 128) : SameMeasures (.ofString s) (.ofString s') := by
  obtain ⟨a, b, ha, hb, hlower⟩ := h.exists_lower hs
  have htext := lowerText_ofString s
  have htext' : lowerText (.ofString s') = .ok (a ++ (lower s.toList ++ b)) := by
    rw [lowerText_ofString, hlower]
  have hwhole : wholeNumber (.ofString s) = wholeNumber (.ofString s') := by
    simp only [wholeNumber, typedNumber?_ofString, htext, htext', number?_surrounded ha hb]
  refine ⟨fun root => .inl ?_, .inl ?_, .inl ?_, .inl hwhole⟩
  · rw [pixels, pixels, scaled_ofString, scaled_ofString, hlower, numberAtStart_surrounded ha hb,
      lengthFactor, lengthFactor, trailingUnit?_surrounded unitTable_lengthUnits ha hb]
  · rw [dotsPerInch, dotsPerInch, scaled_ofString, scaled_ofString, hlower,
      numberAtStart_surrounded ha hb, resolutionFactor, resolutionFactor,
      trailingUnit?_surrounded unitTable_resolutionUnits ha hb]
  · simp only [decimal, typedNumber?_ofString, htext, htext', readRatio?_surrounded ha hb, hwhole]

end Measure

end MediaQuery
