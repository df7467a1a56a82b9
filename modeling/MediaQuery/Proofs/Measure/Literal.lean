import MediaQuery.Proofs.Measure.Ratio
import MediaQuery.Proofs.Text.LetterCase

/-!
# Number literals

A literal is an optional sign, digits with at most one point, and an optional exponent, with digits
of any script. `LiteralOf` gives the numeral of a literal. The numeral is read from the literal with
any text behind it that has no digits and no marks of numerals (`LiteralOf.read?_append`), and from
the literal as a whole (`LiteralOf.number?_eq`), in either letter case.
-/

namespace MediaQuery.Measure

open Text Numeral

/-! ### Literals -/

/-- An optional sign, and whether it is a minus. -/
inductive SignOf : List Char → Bool → Prop
  | none : SignOf [] false
  | plus : SignOf ['+'] false
  | minus : SignOf ['-'] true

/-- Digits before and after an optional point; there is at least one digit. -/
inductive DecimalOf : List Char → List Char → List Char → Prop
  | whole {ds : List Char} : Digits ds → DecimalOf ds ds []
  | point {ds fs : List Char} : Digits (ds ++ fs) → DecimalOf (ds ++ '.' :: fs) ds fs

/-- An optional exponent: its letter, an optional sign and digits. -/
inductive ExponentOf : List Char → Int → Prop
  | none : ExponentOf [] 0
  | some {e : Char} {sign ds : List Char} {negative : Bool} :
      e = 'e' ∨ e = 'E' → SignOf sign negative → Digits ds →
      ExponentOf (e :: (sign ++ ds)) (if negative then -digitsValue ds else digitsValue ds)

/-- A number literal and its numeral. -/
inductive LiteralOf : List Char → Numeral → Prop
  | mk {sign decimal whole fraction exponent : List Char} {negative : Bool} {power : Int} :
      SignOf sign negative → DecimalOf decimal whole fraction → ExponentOf exponent power →
      LiteralOf (sign ++ (decimal ++ exponent))
        ⟨negative, digitsValue (whole ++ fraction), power - fraction.length⟩

/-- Text that continues no literal: it has no digits, signs and points. -/
def NoNumber (cs : List Char) : Prop := ∀ c ∈ cs, ¬ isDigit c ∧ c ∉ ['+', '-', '.']

variable {cs rest ds : List Char} {n : Numeral} {negative : Bool} {power : Int}

theorem NoNumber.nil : NoNumber [] := fun _ hc => absurd hc List.not_mem_nil

/-! ### Characters of a literal -/

theorem SignOf.mem (h : SignOf cs negative) : ∀ c ∈ cs, c ∈ ['+', '-'] := by
  cases h <;> simp

theorem DecimalOf.mem {whole fraction : List Char} (h : DecimalOf cs whole fraction) :
    ∀ c ∈ cs, isDigit c ∨ c = '.' := by
  rcases h with ⟨hds⟩ | ⟨hds⟩
  · exact fun c hc => .inl (hds.2 c hc)
  · obtain ⟨hwhole, hfraction⟩ := List.forall_mem_append.1 hds.2
    refine List.forall_mem_append.2 ⟨fun c hc => .inl (hwhole c hc), ?_⟩
    exact List.forall_mem_cons.2 ⟨.inr rfl, fun c hc => .inl (hfraction c hc)⟩

theorem DecimalOf.ne_nil {whole fraction : List Char} (h : DecimalOf cs whole fraction) :
    cs ≠ [] := by
  rcases h with ⟨hds⟩ | -
  · exact hds.1
  · simp

/-- A literal is made of digits and a few marks. -/
theorem LiteralOf.mem (h : LiteralOf cs n) :
    ∀ c ∈ cs, isDigit c ∨ c ∈ ['+', '-', '.', 'e', 'E'] := by
  rcases h with ⟨hsign, hdecimal, hexponent⟩
  simp only [List.forall_mem_append]
  refine ⟨fun c hc => ?_, fun c hc => ?_, fun c hc => ?_⟩
  · have := hsign.mem c hc
    simp only [List.mem_cons, List.not_mem_nil, or_false] at this ⊢
    tauto
  · rcases hdecimal.mem c hc with hdigit | rfl
    · exact .inl hdigit
    · simp
  · rcases hexponent with - | ⟨he, hsign', hds⟩
    · cases hc
    · simp only [List.mem_cons, List.mem_append] at hc
      rcases hc with rfl | hc | hc
      · rcases he with rfl | rfl <;> simp
      · have := hsign'.mem c hc
        simp only [List.mem_cons, List.not_mem_nil, or_false] at this ⊢
        tauto
      · exact .inl (hds.2 c hc)

theorem LiteralOf.not_isBlank (h : LiteralOf cs n) : ∀ c ∈ cs, ¬ isBlank c := by
  intro c hc hb
  have hall : ∀ c ∈ ['+', '-', '.', 'e', 'E'], ¬ isBlank c := by decide
  rcases h.mem c hc with hdigit | hmark
  · exact not_isDigit_of_isBlank hb hdigit
  · exact hall c hmark hb

/-- A literal ends with a digit or a point. -/
theorem LiteralOf.getLast? (h : LiteralOf cs n) :
    ∃ c, cs.getLast? = some c ∧ (isDigit c ∨ c = '.') := by
  have hlast : ∀ {pre ds : List Char}, ds ≠ [] → (∀ c ∈ ds, isDigit c ∨ c = '.') →
      ∃ c, (pre ++ ds).getLast? = some c ∧ (isDigit c ∨ c = '.') := by
    intro pre ds hne hds
    refine ⟨ds.getLast hne, ?_, hds _ (List.getLast_mem hne)⟩
    rw [List.getLast?_append_of_ne_nil pre hne, List.getLast?_eq_some_getLast hne]
  rcases h with ⟨hsign, hdecimal, hexponent⟩
  rcases hexponent with - | ⟨he, hsign', hds⟩
  · rw [List.append_nil]
    exact hlast hdecimal.ne_nil hdecimal.mem
  · rename_i sign decimal whole fraction negative e sign' ds negative'
    have htext : sign ++ (decimal ++ e :: (sign' ++ ds)) =
        sign ++ (decimal ++ e :: sign') ++ ds := by simp
    rw [htext]
    exact hlast hds.1 fun c hc => .inl (hds.2 c hc)

theorem LiteralOf.head?_not_blank (h : LiteralOf cs n) : ∀ c ∈ (cs ++ rest).head?, ¬ isBlank c := by
  have hne : cs ≠ [] := by
    rintro rfl
    obtain ⟨c, hc, -⟩ := h.getLast?
    cases hc
  obtain ⟨d, ds, rfl⟩ := List.exists_cons_of_ne_nil hne
  rintro c ⟨⟩
  exact h.not_isBlank d List.mem_cons_self

theorem toLower_eq_self {p : Char → Bool} (hp : ∀ n ∈ List.range' 65 26, ¬ p (Char.ofNat n))
    {c : Char} (h : p c) : c.toLower = c :=
  toLower_induction (P := fun c => p c → c.toLower = c) (fun _ hc _ => hc)
    (fun n hn hpn => absurd hpn (hp n hn)) c h

theorem map_toLower_eq_self {p : Char → Bool} (hp : ∀ n ∈ List.range' 65 26, ¬ p (Char.ofNat n))
    (h : ∀ c ∈ cs, p c) : cs.map Char.toLower = cs := by
  have hmap : cs.map Char.toLower = cs.map id :=
    List.map_congr_left fun c hc => toLower_eq_self hp (h c hc)
  rw [hmap, List.map_id]

/-- **A literal in lower case** is a literal of the same numeral. -/
theorem LiteralOf.toLower (h : LiteralOf cs n) : LiteralOf (cs.map Char.toLower) n := by
  have hdigits : ∀ {ds : List Char}, (∀ c ∈ ds, isDigit c) → ds.map Char.toLower = ds :=
    map_toLower_eq_self (by decide)
  have hsigns : ∀ {sign negative}, SignOf sign negative → sign.map Char.toLower = sign := by
    rintro _ _ (- | - | -) <;> decide
  rcases h with ⟨hsign, hdecimal, hexponent⟩
  rename_i sign decimal whole fraction exponent negative power
  have hdecimal' : decimal.map Char.toLower = decimal := by
    rcases hdecimal with ⟨hds⟩ | ⟨hds⟩
    · exact hdigits hds.2
    · obtain ⟨hwhole, hfraction⟩ := List.forall_mem_append.1 hds.2
      rw [List.map_append, List.map_cons, hdigits hwhole, hdigits hfraction]
      rfl
  have hexponent' : ExponentOf (exponent.map Char.toLower) power := by
    rcases hexponent with - | ⟨he, hsign', hds⟩
    · exact .none
    · rw [List.map_cons, List.map_append, hsigns hsign', hdigits hds.2]
      refine .some (.inl ?_) hsign' hds
      rcases he with rfl | rfl <;> rfl
  rw [List.map_append, List.map_append, hsigns hsign, hdecimal']
  exact .mk hsign hdecimal hexponent'

/-! ### Reading a literal -/

theorem readSign_append (h : SignOf cs negative) (hrest : ∀ c ∈ rest.head?, c ∉ ['+', '-']) :
    readSign (cs ++ rest) = (negative, rest) := by
  cases h with
  | none =>
    cases rest with
    | nil => rfl
    | cons c rest =>
      have hc := hrest c rfl
      simp only [List.mem_cons, List.not_mem_nil, or_false, not_or] at hc
      simp [readSign, hc]
  | plus => rfl
  | minus => rfl

theorem not_sign_of_isDigit {c : Char} (h : isDigit c) : c ∉ ['+', '-', '.'] := by
  intro hc
  have hall : ∀ c ∈ ['+', '-', '.'], ¬ isDigit c := by decide
  exact hall c hc h

theorem Digits.head?_not_sign (h : Digits ds) : ∀ c ∈ (ds ++ rest).head?, c ∉ ['+', '-'] := by
  obtain ⟨d, ds, rfl⟩ := List.exists_cons_of_ne_nil h.1
  rintro c ⟨⟩ hc
  refine not_sign_of_isDigit (h.2 d List.mem_cons_self) ?_
  simp only [List.mem_cons, List.not_mem_nil, or_false] at hc ⊢
  tauto

theorem NoNumber.head? (h : NoNumber rest) : ∀ c ∈ rest.head?, ¬ isDigit c ∧ c ∉ ['+', '-', '.'] :=
  fun c hc => h c (List.mem_of_mem_head? hc)

theorem readExponent_append (h : ExponentOf cs power) (hrest : NoNumber rest) :
    readExponent (cs ++ rest) = (power, rest) := by
  have hstop : ∀ c ∈ rest.head?, ¬ isDigit c := fun c hc => (hrest.head? c hc).1
  rcases h with - | ⟨he, hsign, hds⟩
  · rw [List.nil_append]
    cases rest with
    | nil => rfl
    | cons c rest =>
      -- behind the letter there is neither a sign nor a digit
      obtain ⟨-, hrest⟩ := List.forall_mem_cons.1 hrest
      have hsign : readSign rest = (false, rest) := readSign_append .none fun d hd hmem =>
        (NoNumber.head? hrest d hd).2 (by
          simp only [List.mem_cons, List.not_mem_nil, or_false] at hmem ⊢
          tauto)
      have hdigits : rest.takeWhile isDigit = [] := by
        have hnone : ∀ d ∈ rest.head?, ¬ isDigit d := fun d hd => (NoNumber.head? hrest d hd).1
        exact takeWhile_append_stop (a := []) (by simp) hnone
      simp [readExponent, hsign, hdigits]
  · rename_i e sign ds negative
    have hsign' : readSign (sign ++ (ds ++ rest)) = (negative, ds ++ rest) :=
      readSign_append hsign hds.head?_not_sign
    have hne : ds.isEmpty = false := by simpa using hds.1
    rw [List.cons_append, List.append_assoc, readExponent]
    simp only [he, if_true, hsign', takeWhile_append_stop hds.2 hstop,
      dropWhile_append_stop hds.2 hstop, hne, Bool.false_eq_true, if_false]

/-- What follows the digits of a literal is neither a digit nor a point. -/
theorem ExponentOf.head? (h : ExponentOf cs power) (hrest : NoNumber rest) :
    ∀ c ∈ (cs ++ rest).head?, ¬ isDigit c ∧ c ≠ '.' := by
  rcases h with - | ⟨he, -, -⟩
  · intro c hc
    obtain ⟨hdigit, hmark⟩ := hrest.head? c hc
    simp only [List.mem_cons, List.not_mem_nil, or_false, not_or] at hmark
    exact ⟨hdigit, hmark.2.2⟩
  · rintro c ⟨⟩
    rcases he with rfl | rfl <;> decide

/-- The digits behind a point, if there is one, and what follows them. -/
def readFraction : List Char → List Char × List Char
  | '.' :: tail => (tail.takeWhile isDigit, tail.dropWhile isDigit)
  | rest => ([], rest)

theorem read?_eq (cs : List Char) :
    Numeral.read? cs =
      let (negative, cs) := readSign cs
      let whole := cs.takeWhile isDigit
      let (fraction, rest) := readFraction (cs.dropWhile isDigit)
      if whole.isEmpty && fraction.isEmpty then none
      else
        let (exponent, rest) := readExponent rest
        some (⟨negative, digitsValue (whole ++ fraction), exponent - fraction.length⟩, rest) := by
  rw [Numeral.read?]
  dsimp only
  generalize (readSign cs).2.dropWhile isDigit = rest
  cases rest with
  | nil => rfl
  | cons c tail =>
    by_cases hc : c = '.'
    · subst hc
      rfl
    · simp [readFraction, hc]

/-- The digits before and after the point, in front of text that continues neither. -/
theorem DecimalOf.read_append {whole fraction tail : List Char} (h : DecimalOf cs whole fraction)
    (htail : ∀ c ∈ tail.head?, ¬ isDigit c ∧ c ≠ '.') :
    (cs ++ tail).takeWhile isDigit = whole ∧
      readFraction ((cs ++ tail).dropWhile isDigit) = (fraction, tail) := by
  have hstop : ∀ c ∈ tail.head?, ¬ isDigit c := fun c hc => (htail c hc).1
  rcases h with ⟨hds⟩ | ⟨hds⟩
  · rw [takeWhile_append_stop hds.2 hstop, dropWhile_append_stop hds.2 hstop]
    refine ⟨rfl, ?_⟩
    unfold readFraction
    split
    · exact absurd rfl (htail '.' rfl).2
    · rfl
  · obtain ⟨hwhole, hfraction⟩ := List.forall_mem_append.1 hds.2
    have hpoint : ∀ c ∈ ('.' :: (fraction ++ tail)).head?, ¬ isDigit c := by
      rintro c ⟨⟩
      decide
    rw [List.append_assoc, List.cons_append, takeWhile_append_stop hwhole hpoint,
      dropWhile_append_stop hwhole hpoint, readFraction, takeWhile_append_stop hfraction hstop,
      dropWhile_append_stop hfraction hstop]
    exact ⟨rfl, rfl⟩

theorem DecimalOf.some_digit {whole fraction : List Char} (h : DecimalOf cs whole fraction) :
    (whole.isEmpty && fraction.isEmpty) = false := by
  rcases h with ⟨hds⟩ | ⟨hds⟩
  · simp [hds.1]
  · have hne := hds.1
    simp only [ne_eq, List.append_eq_nil_iff] at hne
    simpa using hne

theorem DecimalOf.head?_not_sign {whole fraction tail : List Char}
    (h : DecimalOf cs whole fraction) : ∀ c ∈ (cs ++ tail).head?, c ∉ ['+', '-'] := by
  obtain ⟨d, ds, rfl⟩ := List.exists_cons_of_ne_nil h.ne_nil
  rintro c ⟨⟩
  rcases h.mem d List.mem_cons_self with hdigit | rfl
  · have := not_sign_of_isDigit hdigit
    simp only [List.mem_cons, List.not_mem_nil, or_false, not_or] at this ⊢
    exact ⟨this.1, this.2.1⟩
  · decide

/-- **A literal is read** up to its end. -/
theorem LiteralOf.read?_append (h : LiteralOf cs n) (hrest : NoNumber rest) :
    Numeral.read? (cs ++ rest) = some (n, rest) := by
  rcases h with ⟨hsign, hdecimal, hexponent⟩
  rename_i sign decimal whole fraction exponent negative power
  obtain ⟨hwhole, hfraction⟩ := hdecimal.read_append (hexponent.head? hrest)
  have htext : sign ++ (decimal ++ exponent) ++ rest = sign ++ (decimal ++ (exponent ++ rest)) := by
    simp
  rw [htext, read?_eq, readSign_append hsign hdecimal.head?_not_sign]
  simp only [hwhole, hfraction, hdecimal.some_digit, Bool.false_eq_true, if_false,
    readExponent_append hexponent hrest]

/-! ### A literal as a whole -/

theorem dropUnderscores?_eq_self (h : '_' ∉ cs) (afterDigit : Bool) :
    dropUnderscores? afterDigit cs = some cs := by
  induction cs generalizing afterDigit with
  | nil => rfl
  | cons c cs ih =>
    rw [List.mem_cons, not_or] at h
    rw [dropUnderscores?, ih h.2]
    · rfl
    · exact fun hc => h.1 hc.symm

/-- The names of infinity and NaN start with neither a digit nor a point. -/
theorem not_decimal_of_asciiLower {c : Char} (h : asciiLower c ∈ ['i', 'n']) :
    ¬ isDigit c ∧ c ≠ '.' := by
  by_cases hcapital : 'A' ≤ c ∧ c ≤ 'Z'
  · have hlow : 65 ≤ c.toNat := hcapital.1
    have hhigh : c.toNat ≤ 90 := hcapital.2
    have hall : ∀ n ∈ List.range' 65 26, ¬ isDigit (Char.ofNat n) ∧ Char.ofNat n ≠ '.' := by decide
    refine forall_char_mem (P := fun c => ¬ isDigit c ∧ c ≠ '.') hall ?_
    rw [List.mem_range'_1]
    omega
  · have hall : ∀ c ∈ ['i', 'n'], ¬ isDigit c ∧ c ≠ '.' := by decide
    rw [asciiLower, if_neg (by simpa using hcapital)] at h
    exact hall c h

theorem LiteralOf.plainNumber?_eq (h : LiteralOf cs n) : plainNumber? cs = some n.value := by
  have hread := h.read?_append NoNumber.nil
  rw [List.append_nil] at hread
  rcases h with ⟨hsign, hdecimal, hexponent⟩
  rename_i sign decimal whole fraction exponent negative power
  have hname : ∀ word ∈ ["inf", "infinity", "nan"],
      String.ofList ((decimal ++ exponent).map asciiLower) ≠ word := by
    intro word hword heq
    obtain ⟨d, ds, rfl⟩ := List.exists_cons_of_ne_nil hdecimal.ne_nil
    have hletters : ∀ word ∈ ["inf", "infinity", "nan"], ∀ c ∈ word.toList.head?,
        c ∈ ['i', 'n'] := by decide
    have hletter : asciiLower d ∈ ['i', 'n'] := by
      refine hletters word hword _ ?_
      rw [← heq, String.toList_ofList]
      rfl
    obtain ⟨hdigit, hpoint⟩ := not_decimal_of_asciiLower hletter
    exact (hdecimal.mem d List.mem_cons_self).elim hdigit hpoint
  rw [plainNumber?, readSign_append hsign hdecimal.head?_not_sign]
  simp only [hname "inf" (by simp), hname "infinity" (by simp), hname "nan" (by simp), or_self,
    if_false, hread]

/-- **A literal is a number as a whole.** -/
theorem LiteralOf.number?_eq (h : LiteralOf cs n) : number? cs = some n.value := by
  have hblank := h.not_isBlank
  have hunderscore : '_' ∉ cs := by
    intro hm
    rcases h.mem '_' hm with hdigit | hmark
    · revert hdigit
      decide
    · revert hmark
      decide
  have htrim : trim cs = cs := trim_eq_self
    (fun c hc => hblank c (List.mem_of_mem_head? hc))
    (fun c hc => hblank c (List.mem_of_mem_getLast? hc))
  rw [number?, htrim, bareNumber?, dropUnderscores?_eq_self hunderscore, Option.bind_some,
    h.plainNumber?_eq]

end MediaQuery.Measure
