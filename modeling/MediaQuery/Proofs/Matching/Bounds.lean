import MediaQuery.Proofs.Matching.Meaning

/-!
# Bounds and equality

How the three forms of a test that compares numbers go together: the test itself, its lower bound
with `min` and its upper bound with `max`. They share their two numbers, so `matches_of_normal`
reduces each of them to a comparison, and `bounds_are_coherent` is about the order of binary64
numbers.
-/

namespace MediaQuery

open Binary64

variable {root x y : Binary64} {env : Environment} {t : FeatureTest}

/-! ### Comparing numbers -/

/-- Equality is both bounds at once. -/
theorem within_none_iff : Within none x y ↔ Within (some .min) x y ∧ Within (some .max) x y := by
  constructor
  · exact fun hclose => ⟨.inr hclose, .inr hclose⟩
  · rintro ⟨hbelow | hclose, hbelow' | hclose'⟩
    · exact absurd hbelow' hbelow.asymm
    · exact hclose'
    · exact hclose
    · exact hclose

/-- One of the bounds holds between any two numbers, and none holds of NaN. -/
theorem within_min_or_max_iff :
    Within (some .min) x y ∨ Within (some .max) x y ↔ x ≠ .nan ∧ y ≠ .nan := by
  constructor
  · rintro ((hbelow | hclose) | (hbelow | hclose))
    · exact hbelow.ne_nan.symm
    · exact hclose.ne_nan
    · exact hbelow.ne_nan
    · exact hclose.ne_nan
  · rintro ⟨hx, hy⟩
    rcases below_or_same_or_below hx hy with hbelow | hsame | hbelow
    · exact .inr (.inl hbelow)
    · exact .inl (.inr (.inl hsame))
    · exact .inl (.inl hbelow)

/-! ### Tests of one feature -/

/-- Values with numbers are compared by their numbers. -/
theorem FeatureTest.compare_of_normal {v : Value}
    (hx : Normal root 0 v x (FeatureKind.ofName t.feature))
    (hy : Normal root 1 t.literal y (FeatureKind.ofName t.feature)) :
    t.compare root v = .ok (compareNumbers t.modifier x y) := by
  unfold FeatureTest.compare
  cases hkind : FeatureKind.ofName t.feature with
  | keyword =>
    rw [hkind] at hx
    exact hx.elim
  | count =>
    rw [hkind] at hx hy
    simp only [countOr_eq_ok_iff.2 hx, countOr_eq_ok_iff.2 hy]
  | length | resolution | ratio =>
    rw [hkind] at hx hy
    simp only [Normal] at hx hy
    simp only [compareMeasures, hx, hy]

/-- A test of two numbers has an answer: whether its feature has a value and they compare. -/
theorem FeatureTest.matches_of_normal
    (hx : ∀ v, env.get? t.feature = some v → Normal root 0 v x (FeatureKind.ofName t.feature))
    (hy : Normal root 1 t.literal y (FeatureKind.ofName t.feature)) :
    t.matches root env =
      .ok (!Environment.isMissing (env.get? t.feature) && compareNumbers t.modifier x y) := by
  unfold FeatureTest.matches
  cases hget : env.get? t.feature with
  | none => rfl
  | some v =>
    cases hmissing : Environment.isMissing (some v) with
    | true => simp [hmissing]
    | false => simp [hmissing, compare_of_normal (hx v hget) hy]

/--
**The bounds of a feature are coherent with its value.** Where both sides that are there have a
number, a test has an answer whatever its range. It holds without a range iff it holds as a lower
and as an upper bound; and one of the two bounds holds iff the feature has a value and no number is
NaN.
-/
theorem bounds_are_coherent
    (hx : ∀ v, env.get? t.feature = some v → Normal root 0 v x (FeatureKind.ofName t.feature))
    (hy : Normal root 1 t.literal y (FeatureKind.ofName t.feature)) :
    let answer := fun m => FeatureTest.matches root env { t with modifier := m }
    (∀ m, ∃ b, answer m = .ok b) ∧
    (answer none = .ok true ↔ answer (some .min) = .ok true ∧ answer (some .max) = .ok true) ∧
    (answer (some .min) = .ok true ∨ answer (some .max) = .ok true ↔
      Environment.isMissing (env.get? t.feature) = false ∧ x ≠ .nan ∧ y ≠ .nan) := by
  intro answer
  have hanswer : ∀ m, answer m =
      .ok (!Environment.isMissing (env.get? t.feature) && compareNumbers m x y) :=
    fun m => FeatureTest.matches_of_normal (t := { t with modifier := m }) hx hy
  have htrue : ∀ m, answer m = .ok true ↔
      Environment.isMissing (env.get? t.feature) = false ∧ Within m x y := by
    intro m
    rw [hanswer, Except.ok.injEq, Bool.and_eq_true, Bool.not_eq_true', compareNumbers_iff]
  refine ⟨fun m => ⟨_, hanswer m⟩, ?_, ?_⟩
  · rw [htrue, htrue, htrue, within_none_iff, and_and_left]
  · rw [htrue, htrue, ← and_or_left, within_min_or_max_iff]

/-- A text that is no number counts as zero, and a test without a value asks for one. -/
theorem bounds_of_color :
    let env : Environment := ⟨[("color", .ofString "many")], by decide⟩
    let t : FeatureTest := ⟨"color", none, none⟩
    let kind := FeatureKind.ofName t.feature
    ((∀ v, env.get? t.feature = some v → Normal (Measure.ofNat 16) 0 v (Measure.ofNat 0) kind) ∧
      Normal (Measure.ofNat 16) 1 t.literal (Measure.ofNat 1) kind) ∧
    (FeatureTest.matches (Measure.ofNat 16) env { t with modifier := some .min } = .ok true ∨
      FeatureTest.matches (Measure.ofNat 16) env { t with modifier := some .max } = .ok true) := by
  intro env t kind
  have hx : ∀ v, env.get? t.feature = some v →
      Normal (Measure.ofNat 16) 0 v (Measure.ofNat 0) kind := by
    rintro v hv
    obtain rfl : Value.ofString "many" = v := Option.some.inj hv
    exact ⟨.nan, by decide +kernel, .inl ⟨rfl, rfl⟩⟩
  have hy : Normal (Measure.ofNat 16) 1 t.literal (Measure.ofNat 1) kind :=
    ⟨.nan, by decide +kernel, .inl ⟨rfl, rfl⟩⟩
  have hnumbers : Measure.ofNat 0 ≠ .nan ∧ Measure.ofNat 1 ≠ .nan := by decide +kernel
  exact ⟨⟨hx, hy⟩, (bounds_are_coherent hx hy).2.2.2 ⟨rfl, hnumbers⟩⟩

end MediaQuery
