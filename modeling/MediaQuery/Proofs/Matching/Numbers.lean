import MediaQuery.Proofs.Matching.Mentioned
import MediaQuery.Proofs.Measure.Numeric

/-!
# Matching against numbers of different types

A number can be given as an integer, as a binary64 number, as a truth value or as text. Values with
the same measures match the same tests, apart from those of keywords, which compare texts
(`FeatureTest.matches_of_sameMeasures`). So equal numbers of different types match the same, unless
a keyword is given as a truth value: that counts as the word for it, not as a number
(`matches_equal_numbers`).
-/

namespace MediaQuery

open Text Binary64 MediaQuery.Measure

variable {root : Binary64} {env env' : Environment} {v w : Value}

/-! ### Values with the same measures -/

theorem compareMeasures_congr {measure : Value → Except MeasureError Binary64}
    (h : SameNumber (measure v) (measure w)) (modifier : Option Modifier) (expected : Value) :
    compareMeasures measure modifier v expected = compareMeasures measure modifier w expected := by
  rcases h with heq | ⟨x, y, hx, hy, halike⟩
  · simp only [compareMeasures, heq]
  · simp only [compareMeasures, hx, hy, compareNumbers_congr halike]

/-- A count, with a default for values without one, is as near to any number. -/
theorem countOr_congr (h : SameNumber (wholeNumber v) (wholeNumber w)) (default : Nat) :
    SameNumber (countOr default v) (countOr default w) := by
  rcases h with heq | ⟨x, y, hx, hy, halike⟩
  · exact .inl (by simp only [countOr, count?, heq])
  · have hnan := halike.isNaN_eq
    simp only [countOr, count?, hx, hy, Except.map, hnan]
    cases hy' : y.isNaN with
    | true => exact .inl rfl
    | false => exact .inr ⟨x, y, rfl, rfl, halike⟩

/-- **Values with the same measures are compared alike**, if they are the same as keywords. -/
theorem FeatureTest.compare_congr {t : FeatureTest} (h : SameMeasures v w)
    (hkeyword : FeatureKind.ofName t.feature = .keyword → keyword v = keyword w) :
    t.compare root v = t.compare root w := by
  simp only [FeatureTest.compare]
  cases hkind : FeatureKind.ofName t.feature with
  | length => exact compareMeasures_congr (h.pixels root) _ _
  | resolution => exact compareMeasures_congr h.dotsPerInch _ _
  | ratio => exact compareMeasures_congr h.decimal _ _
  | count =>
    rcases countOr_congr h.wholeNumber 0 with heq | ⟨x, y, hx, hy, halike⟩
    · simp only [heq]
    · simp only [hx, hy, compareNumbers_congr halike]
  | keyword => simp only [compareKeywords, hkeyword hkind]

theorem FeatureTest.matches_of_sameMeasures {t : FeatureTest} (hv : env.get? t.feature = some v)
    (hw : env'.get? t.feature = some w)
    (hmissing : Environment.isMissing (some v) = Environment.isMissing (some w))
    (h : SameMeasures v w)
    (hkeyword : FeatureKind.ofName t.feature = .keyword → keyword v = keyword w) :
    t.matches root env = t.matches root env' := by
  simp only [FeatureTest.matches, hv, hw, hmissing, FeatureTest.compare_congr h hkeyword]

/-! ### Integers and their texts -/

/-- The same value, or an integer and its text. -/
def SameOrText (n : Int) (a b : Option Value) : Prop :=
  a = b ∨ a = some (.int n) ∧ b = some (.ofString (toString n))

theorem keyword_toString {n : Int} {x : Binary64} (h : ofInt? n = some x) :
    keyword (.int n) = keyword (.ofString (toString n)) := by
  simp only [keyword, written_of_isWritable (isWritable_of_ofInt? h),
    written_of_isWritable (isWritable_ofString _), Value.toText, Scalar.toText]

theorem isMissing_toString (n : Int) :
    Environment.isMissing (some (.ofString (toString n))) = false := by
  obtain ⟨c, hc, -⟩ := endsInDigit_toString_int n
  rw [Environment.isMissing, Bool.eq_false_iff, ne_eq, String.isEmpty_iff]
  intro hempty
  rw [hempty] at hc
  cases hc

/-- The code points of the characters that a media type starts with. -/
def typeStartCodes : List Nat :=
  [0x130, 0x131, 0x17F, 0x212A, 95] ++ List.range' 65 26 ++ List.range' 97 26

theorem toNat_mem_typeStartCodes {c : Char} (h : Query.startsType c) :
    c.toNat ∈ typeStartCodes := by
  simp only [Query.startsType, isCaselessLetter, isAsciiLetter, Bool.or_eq_true, Bool.and_eq_true,
    decide_eq_true_eq, beq_iff_eq] at h
  simp only [typeStartCodes, List.mem_append, List.mem_cons, List.not_mem_nil, List.mem_range'_1]
  rcases h with (((((⟨hlow, hhigh⟩ | ⟨hlow, hhigh⟩) | h) | h) | h) | h) | rfl
  · have : 97 ≤ c.toNat := hlow
    have : c.toNat ≤ 122 := hhigh
    omega
  · have : 65 ≤ c.toNat := hlow
    have : c.toNat ≤ 90 := hhigh
    omega
  all_goals simp_all

/-- **No media type starts like an integer.** -/
theorem Grammar.HeadOf.type_ne_toString {cs group rest : List Char} {mediaType : String}
    {inverse : Bool} (h : Grammar.HeadOf cs mediaType inverse group rest) (n : Int) :
    mediaType ≠ toString n := by
  have hint : ∀ c ∈ (toString n).toList.head?, Text.isDigit c ∨ c = '-' :=
    fun c hc => mem_toString_int (List.mem_of_mem_head? hc)
  intro heq
  rw [← heq] at hint
  cases h with
  | grouped => exact absurd (hint 'a' rfl) (by decide)
  | @typed _ _ name _ _ hname =>
    obtain ⟨-, ⟨c, tail, rfl, hstart, -⟩, -⟩ := hname
    -- the first character is in the lower-case form of a letter or of the underscore
    have hall : ∀ m ∈ typeStartCodes, Char.ofNat m ≠ capitalSigma ∧
        ∃ d ∈ lowerChar (Char.ofNat m), (lowerChar (Char.ofNat m)).head? = some d ∧
          ¬ (Text.isDigit d ∨ d = '-') := by decide
    obtain ⟨hsigma, d, -, hd, hnot⟩ := forall_char_mem
      (P := fun c => c ≠ capitalSigma ∧ ∃ d ∈ lowerChar c, (lowerChar c).head? = some d ∧
        ¬ (Text.isDigit d ∨ d = '-')) hall (toNat_mem_typeStartCodes hstart)
    refine hnot (hint d ?_)
    rw [String.toList_ofList, lower, lowerFrom, if_neg hsigma, List.head?_append, hd]
    rfl

/-- **A match takes an integer and its text for each other**, if the integer has a number. -/
theorem QueryList.matches_of_sameOrText {query : String} {qs : QueryList} {n : Int} {x : Binary64}
    (hparse : QueryList.parse query = .ok qs) (hx : ofInt? n = some x)
    (h : ∀ name, SameOrText n (env.get? name) (env'.get? name)) :
    qs.matches root env = qs.matches root env' := by
  apply QueryList.matches_congr
  · intro q hq
    obtain ⟨cs, group, rest, hhead⟩ := Grammar.exists_headOf hparse q hq
    rw [Query.typeMatches, Query.typeMatches]
    rcases h "type" with heq | ⟨hint, htext⟩
    · rw [heq]
    · -- neither the integer nor its text is a media type
      have hne : (toString n == q.mediaType) = false := by
        rw [beq_eq_false_iff_ne]
        exact (hhead.type_ne_toString n).symm
      simp only [hint, htext, hne]
  · intro q _ t _
    rcases h t.feature with heq | ⟨hint, htext⟩
    · exact FeatureTest.matches_congr (.inl heq)
    · exact FeatureTest.matches_of_sameMeasures hint htext (isMissing_toString n).symm
        (sameMeasures_toString hx) fun _ => keyword_toString hx

/-! ### Equal numbers -/

/-- A truth value, an integer or a binary64 number. -/
inductive IsNumber : Value → Prop
  | bool (b : Bool) : IsNumber (.bool b)
  | int (i : Int) : IsNumber (.int i)
  | float (x : Binary64) : IsNumber (.float x)

/-- Numbers of any types that are equal. -/
def EqualNumbers (v w : Value) : Prop :=
  IsNumber v ∧ IsNumber w ∧ ∃ a b : Scalar, v = .scalar a ∧ w = .scalar b ∧ a.same b

/-- The test for truth values. -/
def isTruth : Value → Bool
  | .bool _ => true
  | _ => false

/-- The same value, or equal numbers. -/
def SameOrEqual (a b : Option Value) : Prop :=
  a = b ∨ ∃ v w, a = some v ∧ b = some w ∧ EqualNumbers v w

theorem ofInt?_bool (b : Bool) : ofInt? (if b then 1 else 0) = some (Measure.ofNat b.toNat) := by
  have hone : (1 : Int).natAbs ≤ pow2 53 := by decide
  have hzero : (0 : Int).natAbs ≤ pow2 53 := by decide
  cases b with
  | false => exact (ofInt?_eq_whole hzero).trans (congrArg some (ofDecimal_eq_whole hzero).symm)
  | true => exact (ofInt?_eq_whole hone).trans (congrArg some (ofDecimal_eq_whole hone).symm)

/-- A number without fraction is read as its integer is, but for the sign of zero. -/
theorem IsNumber.typedNumber? {a : Scalar} (h : IsNumber (.scalar a)) {i : Int} {x : Binary64}
    (ha : a.wholeNumber? = some i) (hx : ofInt? i = some x) :
    ∃ y, Measure.typedNumber? (.scalar a) = some (.ok y) ∧ Alike y x := by
  cases h with
  | bool b =>
    cases ha
    rw [ofInt?_bool] at hx
    cases hx
    exact ⟨_, rfl, .refl _⟩
  | int j =>
    cases ha
    exact ⟨x, typedNumber?_int hx, .refl x⟩
  | float x =>
    obtain ⟨y, hy, halike⟩ := ofInt?_of_toInt? ha
    rw [hy] at hx
    cases hx
    exact ⟨_, rfl, halike⟩

theorem IsNumber.unitless {a : Scalar} (h : IsNumber (.scalar a)) {i : Int} {x : Binary64}
    (ha : a.wholeNumber? = some i) (hx : ofInt? i = some x) : Unitless (.scalar a) := by
  cases h with
  | bool b => exact unitless_bool b
  | int j =>
    cases ha
    exact unitless_int hx
  | float x =>
    cases x with
    | nan => cases ha
    | infinity negative => cases ha
    | finite negative units => exact unitless_finite negative units

/-- An integer of any type is its digits as a keyword, unless the type is that of truth values. -/
theorem keyword_of_wholeNumber? {a : Scalar} (h : IsNumber (.scalar a))
    (hb : isTruth (.scalar a) = false) {i : Int} (ha : a.wholeNumber? = some i) :
    keyword (.scalar a) = keyword (.int i) := by
  cases h with
  | bool b => cases hb
  | int j =>
    cases ha
    rfl
  | float x =>
    have htoInt : x.toInt? = some i := ha
    simp only [keyword, htoInt, Option.map_some, Option.getD_some]

/-- A number of a type other than the integers has a number for what it is equal to. -/
theorem exists_ofInt? {a : Scalar} (h : IsNumber (.scalar a)) {i : Int}
    (ha : a.wholeNumber? = some i) : a = .int i ∨ ∃ x, ofInt? i = some x := by
  cases h with
  | bool b =>
    cases ha
    exact .inr ⟨_, ofInt?_bool b⟩
  | int j =>
    cases ha
    exact .inl rfl
  | float x =>
    obtain ⟨y, hy, -⟩ := ofInt?_of_toInt? ha
    exact .inr ⟨y, hy⟩

/-- **Equal numbers** are the same value, or both are one integer that has a number. -/
theorem EqualNumbers.cases (h : EqualNumbers v w) :
    v = w ∨ ∃ (a b : Scalar) (i : Int) (x : Binary64), v = .scalar a ∧ w = .scalar b ∧
      IsNumber (.scalar a) ∧ IsNumber (.scalar b) ∧ a.wholeNumber? = some i ∧
      b.wholeNumber? = some i ∧ ofInt? i = some x := by
  obtain ⟨hv, hw, a, b, rfl, rfl, hsame⟩ := h
  unfold Scalar.same at hsame
  cases ha : a.wholeNumber? with
  | none =>
    cases hb : b.wholeNumber? with
    | some j => simp [ha, hb] at hsame
    | none =>
      -- only binary64 numbers have no integer, and these are no zeros
      cases hv with
      | bool c => cases ha
      | int i => cases ha
      | float x =>
        cases hw with
        | bool c => cases hb
        | int i => cases hb
        | float y =>
          simp only [ha, hb] at hsame
          rcases (eq_iff.1 hsame).alike with rfl | ⟨s, t, rfl, rfl⟩
          · exact .inl rfl
          · exact absurd ha (by simp [Scalar.wholeNumber?, toInt?])
  | some i =>
    cases hb : b.wholeNumber? with
    | none => simp [ha, hb] at hsame
    | some j =>
      obtain rfl : i = j := by simpa [ha, hb] using hsame
      rcases exists_ofInt? hv ha with rfl | ⟨x, hx⟩
      · rcases exists_ofInt? hw hb with rfl | ⟨x, hx⟩
        · exact .inl rfl
        · exact .inr ⟨_, b, i, x, rfl, rfl, hv, hw, ha, hb, hx⟩
      · exact .inr ⟨a, b, i, x, rfl, rfl, hv, hw, ha, hb, hx⟩

theorem IsNumber.isMissing_eq {a : Scalar} (h : IsNumber (.scalar a)) {i : Int}
    (ha : a.wholeNumber? = some i) : Environment.isMissing (some (.scalar a)) = false := by
  cases h with
  | bool b => rfl
  | int j => rfl
  | float x =>
    cases x with
    | nan => cases ha
    | infinity negative => rfl
    | finite negative units => rfl

/-- **A test takes equal numbers for each other**, unless it compares keywords and one of them is a
truth value. -/
theorem FeatureTest.matches_of_sameOrEqual {t : FeatureTest}
    (h : SameOrEqual (env.get? t.feature) (env'.get? t.feature))
    (htruth : FeatureKind.ofName t.feature = .keyword →
      (env.get? t.feature).any isTruth = (env'.get? t.feature).any isTruth) :
    t.matches root env = t.matches root env' := by
  rcases h with heq | ⟨v, w, hv, hw, hequal⟩
  · exact FeatureTest.matches_congr (.inl heq)
  · rcases hequal.cases with rfl | ⟨a, b, i, x, rfl, rfl, hna, hnb, ha, hb, hx⟩
    · exact FeatureTest.matches_congr (.inl (hv.trans hw.symm))
    · obtain ⟨y, hy, hyx⟩ := hna.typedNumber? ha hx
      obtain ⟨z, hz, hzx⟩ := hnb.typedNumber? hb hx
      have hmissing := (hna.isMissing_eq ha).trans (hnb.isMissing_eq hb).symm
      have hmeasures := sameMeasures_of_alike hy hz (hyx.trans hzx.symm) (hna.unitless ha hx)
        (hnb.unitless hb hx)
      refine FeatureTest.matches_of_sameMeasures hv hw hmissing hmeasures fun hkind => ?_
      have hsame := htruth hkind
      rw [hv, hw, Option.any_some, Option.any_some] at hsame
      cases htrue : isTruth (.scalar a) with
      | false =>
        rw [keyword_of_wholeNumber? hna htrue ha,
          keyword_of_wholeNumber? hnb (hsame ▸ htrue) hb]
      | true =>
        -- equal truth values are the same one
        cases hna with
        | bool c =>
          cases hnb with
          | bool d =>
            have hcd : c = d := by
              cases c <;> cases d <;> cases ha <;> cases hb <;> rfl
            rw [hcd]
          | int j => cases hsame
          | float x => cases hsame
        | int j => cases htrue
        | float x => cases htrue

/-- No number is a media type. -/
theorem Query.typeMatches_of_sameOrEqual {q : Query}
    (h : SameOrEqual (env.get? "type") (env'.get? "type")) :
    q.typeMatches env = q.typeMatches env' := by
  rw [typeMatches, typeMatches]
  rcases h with heq | ⟨v, w, hv, hw, hnv, hnw, -⟩
  · rw [heq]
  · rw [hv, hw]
    cases hnv <;> cases hnw <;> rfl

/-- Environments of the same names, in which values are the same or equal numbers. -/
def Renumbered (env env' : Environment) : Prop :=
  List.Forall₂ (fun e e' => e.1 = e'.1 ∧ (e.2 = e'.2 ∨ EqualNumbers e.2 e'.2))
    env.pairs env'.pairs

theorem Renumbered.get? (h : Renumbered env env') (name : String) :
    SameOrEqual (env.get? name) (env'.get? name) := by
  have hvalues : Option.Rel (fun v w => v = w ∨ EqualNumbers v w) (env.get? name)
      (env'.get? name) :=
    lookup_rel (R := fun _ v w => v = w ∨ EqualNumbers v w) h name
  generalize env.get? name = a at hvalues
  generalize env'.get? name = b at hvalues
  cases hvalues with
  | none => exact .inl rfl
  | @some v w hvw => exact hvw.imp (congrArg some) fun hequal => ⟨v, w, rfl, rfl, hequal⟩

/--
**Equal numbers of different types match the same** whatever is asked, unless a truth value takes
the place of another number where keywords are compared: as a keyword a truth value is a word.
-/
theorem matches_equal_numbers (qs : QueryList) (root : Binary64) {env env' : Environment}
    (h : Renumbered env env') :
    ((∀ q ∈ qs, ∀ t ∈ q.tests, FeatureKind.ofName t.feature = .keyword →
        (env.get? t.feature).any isTruth = (env'.get? t.feature).any isTruth) →
      qs.matches root env = qs.matches root env') ∧
    ∀ (t : FeatureTest) (b : Bool), FeatureKind.ofName t.feature = .keyword →
      env.get? t.feature = some (.bool b) → t.matches root env =
        .ok (compareWords (keywordOf (if b then "true" else "false")) t.value) := by
  refine ⟨fun htruth => ?_, fun t b hkind hget => ?_⟩
  · apply QueryList.matches_congr
    · exact fun q _ => Query.typeMatches_of_sameOrEqual (h.get? "type")
    · intro q hq t ht
      exact FeatureTest.matches_of_sameOrEqual (h.get? t.feature) (htruth q hq t ht)
  · have hword : keyword (.bool b) = .ok (keywordOf (if b then "true" else "false")) := by
      cases b <;> decide +kernel
    have hmissing : Environment.isMissing (some (.bool b)) = false := rfl
    simp only [FeatureTest.matches, hget, hmissing, Bool.false_eq_true, if_false,
      FeatureTest.compare, hkind, compareKeywords, hword, Except.map]

/-- A large number, two small ones, a truth value as a number and one as a word. -/
theorem matches_equal_numbers_mixed :
    let qs : QueryList := [⟨"all", false, [⟨"width", some .min, some "1px"⟩,
      ⟨"foo", none, some "2"⟩, ⟨"grid", none, none⟩, ⟨"hover", none, some "TRUE"⟩]⟩]
    let env : Environment := ⟨[("width", .float (ofDecimal false 1 22)), ("foo", .float (ofNat 2)),
      ("grid", .bool true), ("hover", .bool true)], by decide⟩
    let env' : Environment := ⟨[("width", .int (10 ^ 22)), ("foo", .int 2), ("grid", .int 1),
      ("hover", .bool true)], by decide⟩
    Renumbered env env' ∧
    (∀ q ∈ qs, ∀ t ∈ q.tests, FeatureKind.ofName t.feature = .keyword →
      (env.get? t.feature).any isTruth = (env'.get? t.feature).any isTruth) ∧
    qs.matches (ofNat 16) env = qs.matches (ofNat 16) env' ∧
    FeatureTest.matches (ofNat 16) env ⟨"hover", none, some "TRUE"⟩ =
      .ok (compareWords (keywordOf "true") (some "TRUE")) := by
  intro qs env env'
  have henv : Renumbered env env' := by
    refine .cons ⟨rfl, .inr ⟨.float _, .int _, _, _, rfl, rfl, by decide +kernel⟩⟩ <|
      .cons ⟨rfl, .inr ⟨.float _, .int _, _, _, rfl, rfl, by decide +kernel⟩⟩ <|
      .cons ⟨rfl, .inr ⟨.bool _, .int _, _, _, rfl, rfl, by decide⟩⟩ <|
      .cons ⟨rfl, .inl rfl⟩ .nil
  have htruth : ∀ q ∈ qs, ∀ t ∈ q.tests, FeatureKind.ofName t.feature = .keyword →
      (env.get? t.feature).any isTruth = (env'.get? t.feature).any isTruth := by
    simp only [qs, List.forall_mem_cons, List.not_mem_nil, false_implies, implies_true, and_true]
    exact ⟨fun _ => rfl, fun _ => rfl, nofun, fun _ => rfl⟩
  obtain ⟨hmatch, hword⟩ := matches_equal_numbers qs (ofNat 16) henv
  exact ⟨henv, htruth, hmatch htruth,
    hword ⟨"hover", none, some "TRUE"⟩ true (by decide) rfl⟩

/-- The truth value false is equal to zero, but it is a word, and not the one for no hovering. -/
theorem false_hovers :
    let qs : QueryList := [⟨"all", false, [⟨"hover", none, none⟩]⟩]
    let word : Environment := ⟨[("hover", .bool false)], by decide⟩
    let zero : Environment := ⟨[("hover", .int 0)], by decide⟩
    QueryList.parse "(hover)" = .ok qs ∧ Renumbered word zero ∧
    qs.matches (ofNat 16) word = .ok true ∧ qs.matches (ofNat 16) zero = .ok false := by
  intro qs word zero
  have henv : Renumbered word zero :=
    .cons ⟨rfl, .inr ⟨.bool _, .int _, _, _, rfl, rfl, by decide⟩⟩ .nil
  exact ⟨by decide +kernel, henv, by decide +kernel, by decide +kernel⟩

end MediaQuery
