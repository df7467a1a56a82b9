import MediaQuery.Proofs.Dict
import MediaQuery.Proofs.Matching.Meaning
import MediaQuery.Proofs.Measure.Numeric
import MediaQuery.Proofs.Text.LetterCase
import MediaQuery.Query.Parser

/-!
# Where a match fails

In an environment of texts, binary64 numbers, truth values and null, only a ratio can fail to be a
number. So a match has an answer unless it comes to a test of a ratio in which the value or the
literal is an oversized one: `answers_unless_oversized`. Tests that are not reached do not count,
and `exists_ok_iff_of_loop` says for both loops of the matcher what is reached.
-/

namespace MediaQuery

open Text MediaQuery.Measure

variable {root : Binary64} {env : Environment} {v w : Value} {t : FeatureTest}

/-! ### Comparing values -/

theorem exists_compareMeasures_iff {measure : Value → Except MeasureError Binary64}
    {modifier : Option Modifier} :
    (∃ b, compareMeasures measure modifier v w = .ok b) ↔
      (∃ x, measure v = .ok x) ∧ ∃ y, measure w = .ok y := by
  unfold compareMeasures
  cases measure v with
  | error e => simp
  | ok x => cases measure w <;> simp

theorem plain_literal (t : FeatureTest) : Plain t.literal := by
  unfold FeatureTest.literal
  cases t.value with
  | none => exact .inl rfl
  | some text => exact .inr (.inr (.inr ⟨text, rfl⟩))

/-- A plain value has a keyword. -/
theorem exists_compareKeywords (h : Plain v) (literal : Option String) :
    ∃ b, compareKeywords v literal = .ok b := by
  have hkeyword : ∃ word, keyword v = .ok word := by
    rcases h with rfl | ⟨b, rfl⟩ | ⟨x, rfl⟩ | ⟨s, rfl⟩
    · exact ⟨_, rfl⟩
    · exact ⟨_, rfl⟩
    · cases hx : x.toInt? with
      | none =>
        simp only [keyword, hx]
        exact ⟨_, rfl⟩
      | some i =>
        -- an integer that is a number has few enough digits
        obtain ⟨y, hy, -⟩ := Binary64.ofInt?_of_toInt? hx
        simp only [keyword, hx, Option.map_some, Option.getD_some,
          written_of_isWritable (isWritable_of_ofInt? hy)]
        exact ⟨_, rfl⟩
    · exact ⟨_, rfl⟩
  obtain ⟨word, hword⟩ := hkeyword
  rw [compareKeywords, hword]
  exact ⟨_, rfl⟩

theorem exists_countOr (h : Plain v) (default : Nat) : ∃ x, countOr default v = .ok x := by
  obtain ⟨x, hx⟩ := h.exists_count?
  unfold countOr
  rw [hx]
  exact ⟨_, rfl⟩

namespace FeatureTest

/-- A comparison of ratios in which one side has no number. -/
def Oversizes (t : FeatureTest) (v : Value) : Prop :=
  FeatureKind.ofName t.feature = .ratio ∧ (Oversized v ∨ Oversized t.literal)

/-- **A plain value is compared** unless the comparison is of oversized ratios. -/
theorem exists_compare_iff (h : Plain v) :
    (∃ b, t.compare root v = .ok b) ↔ ¬ t.Oversizes v := by
  have hliteral := plain_literal t
  unfold FeatureTest.compare Oversizes
  cases hkind : FeatureKind.ofName t.feature with
  | length =>
    simp only [exists_compareMeasures_iff, h.exists_pixels, hliteral.exists_pixels]
    simp
  | resolution =>
    simp only [exists_compareMeasures_iff, h.exists_dotsPerInch, hliteral.exists_dotsPerInch]
    simp
  | ratio =>
    simp only [exists_compareMeasures_iff, h.exists_decimal_iff, hliteral.exists_decimal_iff]
    simp
  | count =>
    obtain ⟨x, hx⟩ := exists_countOr h 0
    obtain ⟨y, hy⟩ := exists_countOr hliteral 1
    simp [hx, hy]
  | keyword => simp [exists_compareKeywords h]

/-- A ratio without a number has the error of that number, whatever it is compared with. -/
theorem matches_of_decimal_error {e : MeasureError}
    (hkind : FeatureKind.ofName t.feature = .ratio) (hget : env.get? t.feature = some v)
    (hpresent : Present v) (h : decimal v = .error e) : t.matches root env = .error e := by
  have hcounts : ¬ Environment.isMissing (some v) := by
    rw [isMissing_iff, not_not]
    exact hpresent
  unfold FeatureTest.matches FeatureTest.compare compareMeasures
  simp only [hget, if_neg hcounts, hkind, h]

/-- A test is evaluated unless its feature has a value that counts and cannot be compared. -/
theorem exists_matches_iff (henv : ∀ entry ∈ env.pairs, Plain entry.2) :
    (∃ b, t.matches root env = .ok b) ↔
      ∀ v, env.get? t.feature = some v → Present v → ¬ t.Oversizes v := by
  unfold FeatureTest.matches
  cases hget : env.get? t.feature with
  | none => simp
  | some v =>
    have hplain : Plain v := henv (t.feature, v) (Dict.get?_eq_some_iff.1 hget)
    by_cases hmissing : Environment.isMissing (some v)
    · have hnot := isMissing_iff.1 hmissing
      simp [hmissing, hnot]
    · have hpresent : Present v := by rwa [isMissing_iff, not_not] at hmissing
      simp [hmissing, hpresent, exists_compare_iff hplain]

end FeatureTest

/-! ### What is reached -/

/--
A loop goes on while the answers are `go` and stops at any other. It has an answer iff each item
that it comes to has one.
-/
theorem exists_ok_iff_of_loop {α ε : Type} (f : α → Except ε Bool) (loop : List α → Except ε Bool)
    (go : Bool) (hnil : ∃ b, loop [] = .ok b)
    (hcons : ∀ x xs, loop (x :: xs) =
      match f x with
      | .error e => .error e
      | .ok b => if b = go then loop xs else .ok b) (xs : List α) :
    (∃ b, loop xs = .ok b) ↔
      ∀ before x after, xs = before ++ x :: after → (∀ y ∈ before, f y = .ok go) →
        ∃ b, f x = .ok b := by
  induction xs with
  | nil => exact iff_of_true hnil fun before x after h => by simp at h
  | cons x xs ih =>
    rw [hcons]
    cases hx : f x with
    | error e =>
      refine iff_of_false (fun ⟨b, h⟩ => by cases h) fun h => ?_
      obtain ⟨b, hb⟩ := h [] x xs rfl (by simp)
      rw [hx] at hb
      cases hb
    | ok b =>
      by_cases hgo : b = go
      · -- the loop goes on, and what it comes to later comes after `x`
        subst hgo
        simp only [if_true, ih]
        constructor
        · intro h before y after hsplit hbefore
          cases before with
          | nil =>
            obtain ⟨rfl, -⟩ := List.cons_eq_cons.1 hsplit
            exact ⟨b, hx⟩
          | cons z before =>
            obtain ⟨rfl, htail⟩ := List.cons_eq_cons.1 hsplit
            exact h before y after htail (List.forall_mem_cons.1 hbefore).2
        · intro h before y after hsplit hbefore
          refine h (x :: before) y after (by rw [hsplit]; rfl) ?_
          exact List.forall_mem_cons.2 ⟨hx, hbefore⟩
      · simp only [if_neg hgo]
        refine iff_of_true ⟨b, rfl⟩ fun before y after hsplit hbefore => ?_
        cases before with
        | nil =>
          obtain ⟨rfl, -⟩ := List.cons_eq_cons.1 hsplit
          exact ⟨b, hx⟩
        | cons z before =>
          obtain ⟨rfl, -⟩ := List.cons_eq_cons.1 hsplit
          have hz := hbefore x List.mem_cons_self
          rw [hx] at hz
          exact absurd (Except.ok.inj hz) hgo

/-- A test of a query that is evaluated: the type decides nothing, and the tests before it hold. -/
def Query.Reaches (root : Binary64) (env : Environment) (q : Query) (t : FeatureTest) : Prop :=
  q.typeMatches env ≠ q.inverse ∧ ∃ before after, q.tests = before ++ t :: after ∧
    ∀ u ∈ before, u.matches root env = .ok true

/-- A test of a query list that is evaluated: the queries before its own do not match. -/
def QueryList.Reaches (root : Binary64) (env : Environment) (qs : QueryList) (t : FeatureTest) :
    Prop :=
  ∃ before q after, qs = before ++ q :: after ∧ (∀ p ∈ before, p.matches root env = .ok false) ∧
    q.Reaches root env t

theorem exists_allMatch_iff (ts : List FeatureTest) :
    (∃ b, allMatch root env ts = .ok b) ↔
      ∀ before t after, ts = before ++ t :: after → (∀ u ∈ before, u.matches root env = .ok true) →
        ∃ b, t.matches root env = .ok b := by
  refine exists_ok_iff_of_loop (FeatureTest.matches root env) (allMatch root env) true ⟨true, rfl⟩
    (fun t ts => ?_) ts
  rw [allMatch]
  cases t.matches root env with
  | error e => rfl
  | ok b => cases b <;> rfl

theorem Query.exists_matches_iff (q : Query) :
    (∃ b, q.matches root env = .ok b) ↔
      ∀ t, q.Reaches root env t → ∃ b, t.matches root env = .ok b := by
  unfold Query.matches Query.Reaches
  by_cases htype : q.typeMatches env = q.inverse
  · simp [htype]
  have hmap : (∃ b, (allMatch root env q.tests).map (· != q.inverse) = .ok b) ↔
      ∃ b, allMatch root env q.tests = .ok b := by
    cases allMatch root env q.tests <;> simp [Except.map]
  simp only [beq_iff_eq, htype, if_false, hmap, exists_allMatch_iff]
  constructor
  · rintro h t ⟨-, before, after, htests, hbefore⟩
    exact h before t after htests hbefore
  · intro h before t after htests hbefore
    exact h t ⟨htype, before, after, htests, hbefore⟩

theorem QueryList.exists_matches_iff (qs : QueryList) :
    (∃ b, qs.matches root env = .ok b) ↔
      ∀ t, qs.Reaches root env t → ∃ b, t.matches root env = .ok b := by
  have hloop := exists_ok_iff_of_loop (Query.matches root env) (QueryList.matches root env) false
    ⟨false, rfl⟩ (fun q qs => by
      rw [QueryList.matches]
      cases q.matches root env with
      | error e => rfl
      | ok b => cases b <;> rfl) qs
  rw [hloop]
  simp only [Query.exists_matches_iff]
  constructor
  · rintro h t ⟨before, q, after, hqs, hbefore, hreaches⟩
    exact h before q after hqs hbefore t hreaches
  · intro h before q after hqs hbefore t hreaches
    exact h t ⟨before, q, after, hqs, hbefore, hreaches⟩

/-! ### Answers -/

/--
**Malformed values never fail, oversized ratios do.** A text is a length, a resolution and a count
or is none, and it is a decimal unless it is an oversized ratio. In a plain environment a match has
an answer iff no test that it comes to compares an oversized ratio.
-/
theorem answers_unless_oversized (henv : ∀ entry ∈ env.pairs, Plain entry.2) (root : Binary64)
    (qs : QueryList) :
    (∀ s, (∃ x, pixels root (.ofString s) = .ok x) ∧ (∃ x, dotsPerInch (.ofString s) = .ok x) ∧
      (∃ x, count? (.ofString s) = .ok x) ∧
      ((∃ x, decimal (.ofString s) = .ok x) ↔ ¬ Oversized (.ofString s))) ∧
    ((∃ b, qs.matches root env = .ok b) ↔
      ∀ t, qs.Reaches root env t → ∀ v, env.get? t.feature = some v → Present v →
        ¬ (FeatureKind.ofName t.feature = .ratio ∧ (Oversized v ∨ Oversized t.literal))) := by
  constructor
  · intro s
    have hs : Plain (.ofString s) := .inr (.inr (.inr ⟨s, rfl⟩))
    exact ⟨hs.exists_pixels root, hs.exists_dotsPerInch, hs.exists_count?, hs.exists_decimal_iff⟩
  · rw [QueryList.exists_matches_iff]
    exact forall₂_congr fun t _ => FeatureTest.exists_matches_iff henv

/-- A ratio of ten to the given power to one. -/
def powerRatio (n : Nat) : String := String.ofList ('1' :: (List.replicate n '0' ++ ['/', '1']))

theorem present_powerRatio (n : Nat) : Present (.ofString (powerRatio n)) := by
  have hne : powerRatio n ≠ "" := by
    intro h
    have hnil := congrArg String.toList h
    rw [powerRatio, String.toList_ofList] at hnil
    cases hnil
  exact ⟨by simp, by simpa using hne, by simp⟩

theorem ratioOf_powerRatio (n : Nat) :
    RatioOf (lower (powerRatio n).toList) ('1' :: List.replicate n '0') ['1'] := by
  have hascii : ∀ c ∈ (powerRatio n).toList, c.toNat < 128 := by
    simp only [powerRatio, String.toList_ofList, List.mem_cons, List.mem_append,
      List.mem_replicate]
    rintro c (rfl | ⟨-, rfl⟩ | rfl | rfl | hc)
    iterate 4 decide
    cases hc
  have hlower : lower (powerRatio n).toList = '1' :: (List.replicate n '0' ++ ['/', '1']) := by
    rw [lower_of_ascii hascii]
    simp [powerRatio]
  have hblanks : Blanks [] := fun c hc => absurd hc List.not_mem_nil
  refine ⟨[], [], [], [], hblanks, hblanks, hblanks, hblanks, ?_, ?_, ?_⟩
  · refine ⟨List.cons_ne_nil _ _, fun c hc => ?_⟩
    have hdigit : c = '1' ∨ c = '0' := by
      simp only [List.mem_cons, List.mem_replicate] at hc
      tauto
    rcases hdigit with rfl | rfl <;> decide
  · exact ⟨List.cons_ne_nil _ _, by decide⟩
  · rw [hlower]
    simp

theorem decimal_powerRatio_of_long {n : Nat} (h : Numeral.digitLimit ≤ n) :
    decimal (.ofString (powerRatio n)) = .error (.tooManyDigits (some (n + 1))) := by
  have hlong : Numeral.digitLimit < n + 1 := by omega
  rw [decimal_of_ratioOf (ratioOf_powerRatio n)]
  simp [quotient, sideValue, hlong]

/-- An oversized ratio does no harm in a query after one that matches. -/
theorem answers_before_oversized :
    let env : Environment :=
      ⟨[("type", .ofString "screen"), ("aspect-ratio", .ofString (powerRatio 400))], by decide⟩
    let qs : QueryList :=
      [⟨"screen", false, []⟩, ⟨"all", false, [⟨"aspect-ratio", none, some "1"⟩]⟩]
    (∀ entry ∈ env.pairs, Plain entry.2) ∧ ∃ b, qs.matches (ofNat 16) env = .ok b := by
  intro env qs
  have henv : ∀ entry ∈ env.pairs, Plain entry.2 := by
    simp [env, Plain]
  have hscreen : Query.matches (ofNat 16) env ⟨"screen", false, []⟩ = .ok true := rfl
  refine ⟨henv, (answers_unless_oversized henv (ofNat 16) qs).2.2 ?_⟩
  rintro t ⟨before, q, after, hqs, hbefore, -, first, rest, htests, -⟩
  cases before with
  | nil =>
    -- the first query has no tests
    obtain ⟨rfl, -⟩ := List.cons_eq_cons.1 hqs
    simp at htests
  | cons p before =>
    obtain ⟨rfl, -⟩ := List.cons_eq_cons.1 hqs
    have hp := hbefore _ List.mem_cons_self
    rw [hscreen] at hp
    cases hp

/--
A ratio that overflows is no number, nor is one with too many digits, and a match that comes to one
has no answer.
-/
theorem powerRatio_fails :
    let env : Environment := ⟨[("aspect-ratio", .ofString (powerRatio 400))], by decide⟩
    let qs : QueryList := [⟨"all", false, [⟨"aspect-ratio", none, some "1"⟩]⟩]
    decimal (.ofString (powerRatio 400)) = .error .quotientTooLarge ∧
    decimal (.ofString (powerRatio 4300)) = .error (.tooManyDigits (some 4301)) ∧
    QueryList.parse "(aspect-ratio: 1)" = .ok qs ∧
    qs.matches (ofNat 16) env = .error .quotientTooLarge := by
  intro env qs
  have hoverflow : decimal (.ofString (powerRatio 400)) = .error .quotientTooLarge := by
    rw [decimal_of_ratioOf (ratioOf_powerRatio 400)]
    decide +kernel
  have hdigits : decimal (.ofString (powerRatio 4300)) = .error (.tooManyDigits (some 4301)) :=
    decimal_powerRatio_of_long (by decide)
  have hparse : QueryList.parse "(aspect-ratio: 1)" = .ok qs := by decide +kernel
  refine ⟨hoverflow, hdigits, hparse, ?_⟩
  -- the only test of the only query is reached
  have htest : FeatureTest.matches (ofNat 16) env ⟨"aspect-ratio", none, some "1"⟩ =
      .error .quotientTooLarge :=
    FeatureTest.matches_of_decimal_error (by decide) rfl (present_powerRatio 400) hoverflow
  have hquery : Query.matches (ofNat 16) env ⟨"all", false, [⟨"aspect-ratio", none, some "1"⟩]⟩ =
      .error .quotientTooLarge := by
    rw [Query.matches, allMatch, htest]
    rfl
  rw [QueryList.matches, hquery]

end MediaQuery
