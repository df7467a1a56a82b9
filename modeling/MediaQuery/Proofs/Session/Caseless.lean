import MediaQuery.Proofs.Measure.Ratio
import MediaQuery.Proofs.Query.Caseless
import MediaQuery.Proofs.Session.History

/-!
# Sessions in either letter case

Values are compared by their lower-case forms, as texts and as numbers, so queries that differ in
the case of their values match the same environments. With the parses of two such texts compared
in `parse_sameLetters`, a session answers both alike: `answers_sameLetters`.
-/

namespace MediaQuery

open Text MediaQuery.Measure

variable {root : Binary64} {env : Environment}

/-! ### Measures -/

section Measures

variable {v w : String}

theorem lowerText_sameLetters (h : SameLetters v.toList w.toList) :
    lowerText (.ofString v) = lowerText (.ofString w) := by
  rw [lowerText_ofString, lowerText_ofString, h.lower_eq]

theorem leadingNumber_sameLetters (h : SameLetters v.toList w.toList) :
    leadingNumber (.ofString v) = leadingNumber (.ofString w) := by
  unfold leadingNumber
  rw [typedNumber?_ofString, typedNumber?_ofString, lowerText_sameLetters h]

theorem wholeNumber_sameLetters (h : SameLetters v.toList w.toList) :
    wholeNumber (.ofString v) = wholeNumber (.ofString w) := by
  unfold wholeNumber
  rw [typedNumber?_ofString, typedNumber?_ofString]
  simp only [lowerText_sameLetters h]

theorem pixels_sameLetters (h : SameLetters v.toList w.toList) :
    pixels root (.ofString v) = pixels root (.ofString w) := by
  rw [pixels, pixels, scaled, scaled, leadingNumber_sameLetters h, lowerText_sameLetters h]

theorem dotsPerInch_sameLetters (h : SameLetters v.toList w.toList) :
    dotsPerInch (.ofString v) = dotsPerInch (.ofString w) := by
  rw [dotsPerInch, dotsPerInch, scaled, scaled, leadingNumber_sameLetters h,
    lowerText_sameLetters h]

theorem decimal_sameLetters (h : SameLetters v.toList w.toList) :
    decimal (.ofString v) = decimal (.ofString w) := by
  unfold decimal
  rw [typedNumber?_ofString, typedNumber?_ofString, lowerText_sameLetters h,
    wholeNumber_sameLetters h]

theorem countOr_sameLetters (h : SameLetters v.toList w.toList) (default : Nat) :
    countOr default (.ofString v) = countOr default (.ofString w) := by
  unfold countOr count?
  rw [wholeNumber_sameLetters h]

theorem keywordOf_sameLetters (h : SameLetters v.toList w.toList) : keywordOf v = keywordOf w :=
  h.trim.lower_eq

end Measures

/-! ### Matching -/

theorem FeatureTest.SameButCase.matches_eq {t u : FeatureTest} (h : t.SameButCase u) :
    t.matches root env = u.matches root env := by
  obtain ⟨feature, modifier, value⟩ := t
  obtain ⟨feature', modifier', value'⟩ := u
  obtain ⟨rfl, rfl, hvalue⟩ := h
  cases hvalue with
  | none => rfl
  | @some v w hletters =>
    have hcompare : ∀ actual, FeatureTest.compare root ⟨feature, modifier, some v⟩ actual =
        FeatureTest.compare root ⟨feature, modifier, some w⟩ actual := by
      intro actual
      unfold FeatureTest.compare compareMeasures compareKeywords compareWords FeatureTest.literal
      simp only [pixels_sameLetters hletters, dotsPerInch_sameLetters hletters,
        decimal_sameLetters hletters, countOr_sameLetters hletters, keywordOf_sameLetters hletters]
    unfold FeatureTest.matches
    simp only [hcompare]

theorem allMatch_sameButCase {ts us : List FeatureTest}
    (h : List.Forall₂ FeatureTest.SameButCase ts us) :
    allMatch root env ts = allMatch root env us := by
  induction h with
  | nil => rfl
  | cons htest _ ih => rw [allMatch, allMatch, htest.matches_eq, ih]

theorem Query.SameButCase.matches_eq {p q : Query} (h : p.SameButCase q) :
    p.matches root env = q.matches root env := by
  have htype : p.typeMatches env = q.typeMatches env := by
    rw [Query.typeMatches, Query.typeMatches, h.mediaType]
  rw [Query.matches, Query.matches, htype, h.inverse, allMatch_sameButCase h.tests]

/-- **Matching in either case.** -/
theorem QueryList.matches_sameButCase {ps qs : QueryList}
    (h : List.Forall₂ Query.SameButCase ps qs) :
    QueryList.matches root env ps = QueryList.matches root env qs := by
  induction h with
  | nil => rfl
  | cons hquery _ ih => rw [QueryList.matches, QueryList.matches, hquery.matches_eq, ih]

/-! ### Sessions -/

namespace Session.State

variable {s : State} {query query' : String}

/--
**Queries ignore letter case.** Two texts that differ in the case of letters only are parsed, over
any caches that hold what texts parse to, to trees that are equal but for the case of values, or
fail at the same clause. A match answers the same, or both texts fail to parse.
-/
theorem answers_sameLetters (hs : s.library.Coherent)
    (h : SameLetters query.toList query'.toList) (route : Route) :
    ((∃ qs qs', s.observe (.parse route query) = .ok (.inl qs) ∧
        s.observe (.parse route query') = .ok (.inl qs') ∧
        List.Forall₂ Query.SameButCase qs qs') ∨
      ∃ e e', s.observe (.parse route query) = .error (.grammar e) ∧
        s.observe (.parse route query') = .error (.grammar e') ∧
        QueryList.SameFault (splitOn ',' query.toList) (splitOn ',' query'.toList) e e') ∧
    ∀ env, s.observe (.matchOnce (.query query) env) = s.observe (.matchOnce (.query query') env) ∨
      ∃ e e', s.observe (.matchOnce (.query query) env) = .error (.grammar e) ∧
        s.observe (.matchOnce (.query query') env) = .error (.grammar e') := by
  simp only [observe_parse hs, observe_matchOnce hs, plainParse, plainMatch]
  rcases QueryList.parse_sameLetters h with ⟨qs, qs', hqs, hqs', hsame⟩ | ⟨e, e', he, he', hfault⟩
  · rw [hqs, hqs']
    refine ⟨.inl ⟨qs, qs', rfl, rfl, hsame⟩, fun env => .inl ?_⟩
    simp only [plainMatchTree, QueryList.matches_sameButCase hsame]
  · rw [he, he']
    exact ⟨.inr ⟨e, e', rfl, rfl, hfault⟩, fun env => .inr ⟨e, e', rfl, rfl⟩⟩

/-- Capitals in a keyword, a type, a feature and a unit. -/
theorem answers_capitals :
    let query := "NOT Print AND (Min-WIDTH: 3EM)"
    let query' := "not print and (min-width: 3em)"
    initial.library.Coherent ∧ SameLetters query.toList query'.toList ∧
    ∀ env, initial.observe (.matchOnce (.query query) env) =
      initial.observe (.matchOnce (.query query') env) := by
  intro query query'
  have hs : initial.library.Coherent := Library.coherent_initial
  have hletters : SameLetters query.toList query'.toList := by
    unfold SameLetters
    decide
  have hparse : QueryList.parse query =
      .ok [⟨"print", true, [⟨"width", some .min, some "3EM"⟩]⟩] := by decide +kernel
  refine ⟨hs, hletters, fun env => ?_⟩
  rcases (answers_sameLetters hs hletters (.cache .standard)).2 env with h | ⟨e, -, h, -⟩
  · exact h
  · rw [observe_matchOnce hs, plainMatch, hparse] at h
    simp only [plainMatchTree] at h
    split at h <;> cases h

end Session.State

end MediaQuery
