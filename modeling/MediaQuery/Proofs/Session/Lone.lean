import MediaQuery.Proofs.Matching.Numbers
import MediaQuery.Proofs.Measure.Quotient
import MediaQuery.Proofs.Query.Lone
import MediaQuery.Proofs.Session.History

/-!
# Sessions that match one test

A match of a text that is one test in parentheses is a match of that test (`observe_lone`). So what
is known of numbers shows in the answers of a session: ranges of whole pixels are compared as
integers (`pixel_ranges`), and ratios by the numbers that they are (`ratios_by_value`).
-/

namespace MediaQuery

open Text Query

variable {root : Binary64} {env : Environment} {t : FeatureTest}

/-! ### A test alone -/

theorem QueryList.matches_lone :
    QueryList.matches root env [⟨"all", false, [t]⟩] = t.matches root env := by
  have htype : Query.typeMatches env ⟨"all", false, [t]⟩ = true := by simp [Query.typeMatches]
  simp only [QueryList.matches, Query.matches, htype, allMatch]
  rcases t.matches root env with e | ⟨_ | _⟩ <;> rfl

namespace Session.State

variable {s : State}

/-- **A match of a test alone** is one of the test, its value with tabs expanded and trimmed. -/
theorem observe_lone (hs : s.library.Coherent) {feature value : String}
    (hf : FeatureKind.ofName feature ≠ .keyword) (modifier : Option Modifier)
    (hvalue : LoneValue value.toList) :
    ∃ column, ∀ env,
      s.observe (.matchOnce (.query (FeatureTest.text ⟨feature, modifier, some value⟩)) env) =
        plainMatchTree s.roots.current [⟨"all", false, [⟨feature, modifier,
          some (String.ofList (trim (expandTabs column value.toList)))⟩]⟩] env := by
  obtain ⟨f, rfl⟩ := exists_feature_of_kind hf
  obtain ⟨column, hparse⟩ := parse_lone (plainFeature_name f) modifier hvalue
  refine ⟨column, fun env => ?_⟩
  rw [observe_matchOnce hs, plainMatch, hparse]

/-! ### Ranges of whole pixels -/

theorem mem_px {i : Int} {c : Char} (h : c ∈ (toString i ++ "px").toList) :
    Text.isDigit c ∨ c = '-' ∨ c = 'p' ∨ c = 'x' := by
  rw [String.toList_append, List.mem_append] at h
  rcases h with h | h
  · exact (mem_toString_int h).imp_right .inl
  · exact .inr (.inr (by simpa using h))

theorem loneValue_px (i : Int) : LoneValue (toString i ++ "px").toList := by
  refine ⟨⟨'x', by simp, by decide⟩, fun h => ?_, fun h => ?_, no_opener_of_notMem fun h => ?_⟩ <;>
    exact absurd (mem_px h) (by decide)

/-- There is no white space in a number of pixels. -/
theorem trim_expandTabs_px (i : Int) (column : Nat) :
    trim (expandTabs column (toString i ++ "px").toList) = (toString i ++ "px").toList := by
  have hblank : ∀ c ∈ (toString i ++ "px").toList, ¬ isBlank c := by
    intro c hc hc'
    rcases mem_px hc with hdigit | rfl | rfl | rfl
    · exact Measure.not_isDigit_of_isBlank hc' hdigit
    all_goals exact absurd hc' (by decide)
  rw [expandTabs_eq_self fun h => hblank _ h (by decide)]
  exact trim_eq_self (fun c hc => hblank c (List.mem_of_mem_head? hc))
    fun c hc => hblank c (List.mem_of_mem_getLast? hc)

/-- **A length of whole pixels** is compared as an integer, given as one or as text. -/
theorem matches_pixels {f : String} (hf : FeatureKind.ofName f = .length) {a b : Int}
    (ha : a.natAbs < 10 ^ 9) (hb : b.natAbs < 10 ^ 9) {v : Value}
    (hv : Measure.InPixels b v) (hget : env.get? f = some v) (modifier : Option Modifier) :
    FeatureTest.matches root env ⟨f, modifier, some (toString a ++ "px")⟩ =
      .ok (compareIntegers modifier b a) := by
  have hbound : 10 ^ 9 ≤ pow2 53 := by decide
  have ha' : a.natAbs ≤ pow2 53 := ha.le.trans hbound
  have hb' : b.natAbs ≤ pow2 53 := hb.le.trans hbound
  have hpresent : Environment.isMissing (some v) = false := by
    cases hv with
    | number => rfl
    | text => exact isMissing_toString b
    | unit => simp [Environment.isMissing]
  simp only [FeatureTest.matches, hget, hpresent, FeatureTest.compare, hf, compareMeasures,
    FeatureTest.literal, hv.pixels_eq root hb', Measure.pixels_px root ha',
    Binary64.compareNumbers_whole hb ha, Bool.false_eq_true, if_false]

theorem observe_pixels (hs : s.library.Coherent) {f : String} (hf : FeatureKind.ofName f = .length)
    {a b : Int} (ha : a.natAbs < 10 ^ 9) (hb : b.natAbs < 10 ^ 9) {v : Value}
    (hv : Measure.InPixels b v) (hget : env.get? f = some v) (modifier : Option Modifier) :
    s.observe
        (.matchOnce (.query (FeatureTest.text ⟨f, modifier, some (toString a ++ "px")⟩)) env) =
      .ok (.inr (.flag (compareIntegers modifier b a))) := by
  obtain ⟨column, hobserve⟩ := observe_lone hs (by rw [hf]; decide) modifier (loneValue_px a)
  rw [hobserve, trim_expandTabs_px, String.ofList_toList, plainMatchTree, QueryList.matches_lone,
    matches_pixels hf ha hb hv hget]

/--
**Ranges of whole pixels are exact.** For a length feature and integers below `10 ^ 9` in magnitude,
the bounds and the equality written in a query are those of the integers, whether the environment
has the integer, its text, or its text in pixels.
-/
theorem pixel_ranges (hs : s.library.Coherent) {f : String} (hf : FeatureKind.ofName f = .length)
    {a b : Int} (ha : a.natAbs < 10 ^ 9) (hb : b.natAbs < 10 ^ 9) {v : Value}
    (hv : Measure.InPixels b v) (hget : env.get? f = some v) :
    let matched := fun query => s.observe (.matchOnce (.query query) env)
    matched ("(min-" ++ f ++ ": " ++ toString a ++ "px)") = .ok (.inr (.flag (decide (b ≥ a)))) ∧
    matched ("(max-" ++ f ++ ": " ++ toString a ++ "px)") = .ok (.inr (.flag (decide (b ≤ a)))) ∧
    matched ("(" ++ f ++ ": " ++ toString a ++ "px)") = .ok (.inr (.flag (decide (a = b)))) := by
  intro matched
  have hobserve := observe_pixels hs hf ha hb hv hget
  refine ⟨?_, ?_, ?_⟩
  · have htext : "(min-" ++ f ++ ": " ++ toString a ++ "px)" =
        FeatureTest.text ⟨f, some .min, some (toString a ++ "px")⟩ :=
      String.ext (by simp [FeatureTest.text, Modifier.name])
    exact htext ▸ hobserve (some .min)
  · have htext : "(max-" ++ f ++ ": " ++ toString a ++ "px)" =
        FeatureTest.text ⟨f, some .max, some (toString a ++ "px")⟩ :=
      String.ext (by simp [FeatureTest.text, Modifier.name])
    exact htext ▸ hobserve (some .max)
  · have htext : "(" ++ f ++ ": " ++ toString a ++ "px)" =
        FeatureTest.text ⟨f, none, some (toString a ++ "px")⟩ :=
      String.ext (by simp [FeatureTest.text])
    exact htext ▸ hobserve none

/-- The greatest integers of which one is below the other, in pixels. -/
theorem pixel_ranges_greatest :
    let s := initial
    let env : Environment := ⟨[("device-width", .ofString "999999999px")], by decide⟩
    let matched := fun query => s.observe (.matchOnce (.query query) env)
    s.library.Coherent ∧ FeatureKind.ofName "device-width" = .length ∧
    (999999998 : Int).natAbs < 10 ^ 9 ∧ (999999999 : Int).natAbs < 10 ^ 9 ∧
    env.get? "device-width" = some (.ofString (toString (999999999 : Int) ++ "px")) ∧
    matched "(min-device-width: 999999998px)" = .ok (.inr (.flag true)) ∧
    matched "(max-device-width: 999999998px)" = .ok (.inr (.flag false)) ∧
    matched "(device-width: 999999998px)" = .ok (.inr (.flag false)) := by
  intro s env matched
  have hf : FeatureKind.ofName "device-width" = .length := by decide
  have ha : (999999998 : Int).natAbs < 10 ^ 9 := by decide
  have hb : (999999999 : Int).natAbs < 10 ^ 9 := by decide
  have hvalue : toString (999999999 : Int) ++ "px" = "999999999px" := by decide
  have hget : env.get? "device-width" = some (.ofString (toString (999999999 : Int) ++ "px")) := by
    rw [hvalue]
    rfl
  have hexpected : toString (999999998 : Int) = "999999998" := by decide
  have hranges := pixel_ranges (s := s) Library.coherent_initial hf ha hb .unit hget
  rw [hexpected] at hranges
  exact ⟨Library.coherent_initial, hf, ha, hb, hget, hranges⟩

/-! ### Ratios -/

theorem loneValue_ratio {cs left right : List Char} (h : Measure.RatioOf cs left right) :
    LoneValue cs := by
  have hmem : ∀ c ∈ cs, isBlank c ∨ Text.isDigit c ∨ c = '/' := fun c => h.mem
  have hstar : '*' ∉ cs := fun hc => absurd (hmem _ hc) (by decide)
  refine ⟨?_, fun hc => absurd (hmem _ hc) (by decide), fun hc => absurd (hmem _ hc) (by decide),
    fun hopener => hstar (hopener.subset (by simp))⟩
  obtain ⟨a, b, c, d, -, -, -, -, -, -, rfl⟩ := h
  exact ⟨'/', by simp, by decide⟩

/-- Tests of one number match alike. -/
theorem matches_of_decimal_eq {f text text' : String} (hf : FeatureKind.ofName f = .ratio)
    (h : Measure.decimal (.ofString text) = Measure.decimal (.ofString text'))
    (modifier : Option Modifier) :
    FeatureTest.matches root env ⟨f, modifier, some text⟩ =
      FeatureTest.matches root env ⟨f, modifier, some text'⟩ := by
  simp only [FeatureTest.matches, FeatureTest.compare, hf, FeatureTest.literal, compareMeasures, h]

/-- **A test of a ratio is one of its number**, however the ratio is laid out. -/
theorem observe_ratio (hs : s.library.Coherent) {f text : String}
    (hf : FeatureKind.ofName f = .ratio)
    {left right : List Char} (h : Measure.RatioOf text.toList left right)
    (modifier : Option Modifier) (env : Environment) :
    s.observe (.matchOnce (.query (FeatureTest.text ⟨f, modifier, some text⟩)) env) =
      plainMatchTree s.roots.current [⟨"all", false, [⟨f, modifier, some text⟩]⟩] env := by
  obtain ⟨column, hobserve⟩ := observe_lone hs (by rw [hf]; decide) modifier (loneValue_ratio h)
  have hlayout : Measure.RatioOf
      (String.ofList (trim (expandTabs column text.toList))).toList left right := by
    rw [String.toList_ofList]
    exact (h.expandTabs column).trim
  rw [hobserve, plainMatchTree, plainMatchTree, QueryList.matches_lone, QueryList.matches_lone,
    matches_of_decimal_eq hf ((Measure.decimal_ofString hlayout).trans
      (Measure.decimal_ofString h).symm)]

/--
**Ratios count by their values.** The number of `n / d` is the quotient of the integers, of
whatever size they are, in units and correctly rounded; it is the error of an overflow if that is
beyond the finite numbers. With both sides multiplied, the number and the answers to matches are the
same.
-/
theorem ratios_by_value {n d k : Nat} (hd : 0 < d) (hk : 0 < k) {text text' : String}
    {left right left' right' : List Char} (h : Measure.RatioOf text.toList left right)
    (hleft : Measure.SideOf left n) (hright : Measure.SideOf right d)
    (h' : Measure.RatioOf text'.toList left' right')
    (hleft' : Measure.SideOf left' (k * n)) (hright' : Measure.SideOf right' (k * d)) :
    (∃ units, ∃ hround : Binary64.RoundsTo ((n : ℚ) / d * Binary64.one) units,
      (∀ w, Binary64.RoundsTo ((n : ℚ) / d * Binary64.one) w → w = units) ∧
      Measure.decimal (.ofString text) =
        if hlimit : units < Binary64.unitsLimit then
          .ok (.finite false ⟨units, hround.exact, hlimit⟩)
        else .error .quotientTooLarge) ∧
    Measure.decimal (.ofString text') = Measure.decimal (.ofString text) ∧
    ∀ {s : State}, s.library.Coherent → ∀ f, FeatureKind.ofName f = .ratio → ∀ modifier env,
      s.observe (.matchOnce (.query (FeatureTest.text ⟨f, modifier, some text'⟩)) env) =
        s.observe (.matchOnce (.query (FeatureTest.text ⟨f, modifier, some text⟩)) env) := by
  have hvalue : (n : ℚ) / d * Binary64.one = (n * Binary64.one : Nat) / d := by
    rw [Nat.cast_mul, div_mul_eq_mul_div]
  have hdecimal := (Measure.decimal_ofString h).trans (Measure.quotient_eq hleft hright hd)
  have hdecimal' : Measure.decimal (.ofString text') = Measure.decimal (.ofString text) := by
    rw [Measure.decimal_ofString h', Measure.quotient_eq hleft' hright' (Nat.mul_pos hk hd),
      Measure.ofQuotient?_mul_left hk, hdecimal]
  have hround : Binary64.RoundsTo ((n : ℚ) / d * Binary64.one)
      (Binary64.roundUnits (n * Binary64.one) d) := by
    rw [hvalue]
    exact Binary64.roundsTo_roundUnits _ hd
  refine ⟨⟨_, hround, fun w hw => ?_, ?_⟩, hdecimal', fun {s} hs f hf modifier env => ?_⟩
  · rw [hvalue, Binary64.roundsTo_iff hd] at hw
    exact hw
  · rw [hdecimal, Measure.orTooLarge_ofQuotient? rfl hround.exact]
  · rw [observe_ratio hs hf h', observe_ratio hs hf h, plainMatchTree, plainMatchTree,
      QueryList.matches_lone, QueryList.matches_lone, matches_of_decimal_eq hf hdecimal']

/-- Sides of twice the size, with a zero in front and white space around them. -/
theorem ratios_by_value_doubled :
    let text := "16/9"
    let text' := " 032 /\t18"
    Measure.RatioOf text.toList ['1', '6'] ['9'] ∧ Measure.SideOf ['1', '6'] 16 ∧
    Measure.SideOf ['9'] 9 ∧ Measure.RatioOf text'.toList ['0', '3', '2'] ['1', '8'] ∧
    Measure.SideOf ['0', '3', '2'] (2 * 16) ∧ Measure.SideOf ['1', '8'] (2 * 9) ∧
    (∃ units, ∃ hround :
        Binary64.RoundsTo (((16 : Nat) : ℚ) / (9 : Nat) * Binary64.one) units,
      Measure.decimal (.ofString text) =
        if hlimit : units < Binary64.unitsLimit then
          .ok (.finite false ⟨units, hround.exact, hlimit⟩)
        else .error .quotientTooLarge) ∧
    Measure.decimal (.ofString text') = Measure.decimal (.ofString text) ∧
    ∀ env, initial.observe (.matchOnce (.query "(min-aspect-ratio:  032 /\t18)") env) =
      initial.observe (.matchOnce (.query "(min-aspect-ratio: 16/9)") env) := by
  intro text text'
  have h : Measure.RatioOf text.toList ['1', '6'] ['9'] :=
    Measure.readRatio?_eq_some_iff.1 (by decide)
  have h' : Measure.RatioOf text'.toList ['0', '3', '2'] ['1', '8'] :=
    Measure.readRatio?_eq_some_iff.1 (by decide)
  have hleft : Measure.SideOf ['1', '6'] 16 := ⟨by decide, by decide⟩
  have hright : Measure.SideOf ['9'] 9 := ⟨by decide, by decide⟩
  have hleft' : Measure.SideOf ['0', '3', '2'] (2 * 16) := ⟨by decide, by decide⟩
  have hright' : Measure.SideOf ['1', '8'] (2 * 9) := ⟨by decide, by decide⟩
  obtain ⟨⟨units, hround, -, hdecimal⟩, hsame, hobserve⟩ := ratios_by_value (by decide : 0 < 9)
    (by decide : 0 < 2) h hleft hright h' hleft' hright'
  refine ⟨h, hleft, hright, h', hleft', hright', ⟨units, hround, hdecimal⟩, hsame, fun env => ?_⟩
  exact hobserve Library.coherent_initial "aspect-ratio" (by decide) (some .min) env

end Session.State

end MediaQuery
