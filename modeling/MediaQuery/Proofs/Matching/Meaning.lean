import MediaQuery.Matching
import MediaQuery.Proofs.Number.Order
import Mathlib.Control.Monad.Basic

/-!
# The meaning of a query list

What it means that an environment satisfies a query list, without an order of evaluation:
`FeatureTest.Holds` for a test, `Query.Satisfied` for a query. Where every test can be evaluated,
the matcher decides this meaning (`matches_iff_satisfied`).

* `Present` are the values that count;
* `Within` compares numbers up to the tolerance, after `Normal` made them of values;
* `FeatureTest.Agrees` compares a value with a test, by the kind of its feature.
-/

namespace MediaQuery

open Text Binary64

/-! ### Values and numbers -/

/-- Values other than null, the empty text and NaN. -/
def Present (v : Value) : Prop := v ≠ .null ∧ v ≠ .ofString "" ∧ v ≠ .float .nan

/-- At least, at most or equal, up to the tolerance. -/
def Within (modifier : Option Modifier) (actual expected : Binary64) : Prop :=
  match modifier with
  | some .min => expected.Below actual ∨ Close tolerance actual expected
  | some .max => actual.Below expected ∨ Close tolerance actual expected
  | none => Close tolerance actual expected

/-- A count: the number that a value is, or the default for a value that is none. -/
def CountsAs (default : Nat) (v : Value) (x : Binary64) : Prop :=
  ∃ n, Measure.wholeNumber v = .ok n ∧ (n = .nan ∧ x = Measure.ofNat default ∨ n ≠ .nan ∧ x = n)

/-- The number that a value is for a kind of feature; the default is for counts. -/
def Normal (root : Binary64) (default : Nat) (v : Value) (x : Binary64) : FeatureKind → Prop
  | .length => Measure.pixels root v = .ok x
  | .resolution => Measure.dotsPerInch v = .ok x
  | .ratio => Measure.decimal v = .ok x
  | .count => CountsAs default v x
  | .keyword => False

/-- A keyword is that of the literal; without a literal it is no false keyword. -/
def SameWord (literal : Option String) (word : List Char) : Prop :=
  match literal with
  | some text => word = keywordOf text
  | none => ∀ f ∈ falseKeywords, word ≠ f.toList

/-- A value has a keyword, which goes with the literal. -/
def SameKeyword (literal : Option String) (v : Value) : Prop :=
  ∃ word, keyword v = .ok word ∧ SameWord literal word

variable {root x y : Binary64} {env : Environment} {v : Value} {b : Bool}

theorem isMissing_iff : Environment.isMissing (some v) ↔ ¬ Present v := by
  unfold Present
  cases v with
  | list | map => simp [Environment.isMissing]
  | scalar s =>
    cases s with
    | text s => simp [Environment.isMissing]
    | float x => cases x <;> simp [Environment.isMissing, isNaN]
    | _ => simp [Environment.isMissing]

theorem compareNumbers_iff {modifier : Option Modifier} :
    compareNumbers modifier x y ↔ Within modifier x y := by
  unfold compareNumbers Within
  rcases modifier with - | - | -
  · exact near_iff
  · rw [Bool.or_eq_true, near_iff, lt_iff, or_comm]
  · rw [Bool.or_eq_true, near_iff, lt_iff, or_comm]

theorem compareWords_iff {literal : Option String} {word : List Char} :
    compareWords word literal ↔ SameWord literal word := by
  unfold compareWords SameWord
  cases literal with
  | some text => exact decide_eq_true_iff
  | none =>
    rw [Bool.not_eq_true', List.contains_eq_any_beq, List.any_eq_false]
    refine forall₂_congr fun f _ => not_congr ?_
    rw [beq_iff_eq, ← String.toList_inj, String.toList_ofList, eq_comm]

theorem compareKeywords_iff {literal : Option String} (h : compareKeywords v literal = .ok b) :
    b ↔ SameKeyword literal v := by
  unfold compareKeywords at h
  unfold SameKeyword
  cases hword : keyword v with
  | error e =>
    rw [hword] at h
    cases h
  | ok word =>
    rw [hword] at h
    cases h
    simp [compareWords_iff]

theorem countOr_eq_ok_iff {default : Nat} : countOr default v = .ok x ↔ CountsAs default v x := by
  unfold countOr Measure.count? CountsAs
  cases hn : Measure.wholeNumber v with
  | error e => simp [Except.map]
  | ok n => cases n <;> simp [Except.map, isNaN, eq_comm]

/-! ### Tests -/

namespace FeatureTest

variable {t : FeatureTest}

/-- A value agrees with a test. -/
def Agrees (root : Binary64) (t : FeatureTest) (v : Value) : Prop :=
  match FeatureKind.ofName t.feature with
  | .keyword => SameKeyword t.value v
  | kind => ∃ x y, Normal root 0 v x kind ∧ Normal root 1 t.literal y kind ∧ Within t.modifier x y

/-- A test holds when its feature has a value that counts and agrees with it. -/
def Holds (root : Binary64) (env : Environment) (t : FeatureTest) : Prop :=
  ∃ v, env.get? t.feature = some v ∧ Present v ∧ t.Agrees root v

/-- Comparing the numbers of two values, where both have one. -/
theorem compared_iff {modifier : Option Modifier} {actual expected : Except MeasureError Binary64}
    (h : (match actual with
      | .error e => .error e
      | .ok x =>
        match expected with
        | .error e => .error e
        | .ok y => .ok (compareNumbers modifier x y)) = Except.ok b) :
    b ↔ ∃ x y, actual = .ok x ∧ expected = .ok y ∧ Within modifier x y := by
  cases actual with
  | error e => cases h
  | ok x =>
    cases expected with
    | error e => cases h
    | ok y =>
      cases h
      simp [compareNumbers_iff]

theorem compare_iff (h : t.compare root v = .ok b) : b ↔ t.Agrees root v := by
  unfold FeatureTest.compare at h
  unfold Agrees
  cases hkind : FeatureKind.ofName t.feature with
  | keyword =>
    rw [hkind] at h
    exact compareKeywords_iff h
  | count =>
    rw [hkind] at h
    simp only [Normal, ← countOr_eq_ok_iff]
    exact compared_iff h
  | length | resolution | ratio =>
    rw [hkind] at h
    exact compared_iff h

/-- **A test that can be evaluated holds iff it says so.** -/
theorem matches_iff_holds (h : t.matches root env = .ok b) : b ↔ t.Holds root env := by
  unfold FeatureTest.matches at h
  unfold Holds
  cases hget : env.get? t.feature with
  | none =>
    rw [hget] at h
    cases h
    simp
  | some v =>
    simp only [hget] at h
    by_cases hmissing : Environment.isMissing (some v)
    · rw [if_pos hmissing] at h
      cases h
      simp [isMissing_iff.1 hmissing]
    · rw [if_neg hmissing] at h
      rw [isMissing_iff, not_not] at hmissing
      simp [compare_iff h, hmissing]

end FeatureTest

/-! ### Queries -/

namespace Query

variable {q : Query}

/-- The type of a query is `all` or that of the environment. -/
def TypeIs (env : Environment) (q : Query) : Prop :=
  q.mediaType = "all" ∨ env.get? "type" = some (.ofString q.mediaType)

/--
The type fits and all tests hold; or the query is inverted, its type does not fit and some test
does not hold.
-/
def Satisfied (root : Binary64) (env : Environment) (q : Query) : Prop :=
  q.inverse = false ∧ q.TypeIs env ∧ (∀ t ∈ q.tests, t.Holds root env) ∨
    q.inverse = true ∧ ¬ q.TypeIs env ∧ ∃ t ∈ q.tests, ¬ t.Holds root env

theorem typeMatches_iff : q.typeMatches env ↔ q.TypeIs env := by
  unfold typeMatches TypeIs
  rw [Bool.or_eq_true, beq_iff_eq]
  refine or_congr_right ?_
  split
  · rename_i s hget
    simp [hget]
  · rename_i hother
    constructor
    · exact fun h => absurd h Bool.false_ne_true
    · exact fun h => absurd h (hother q.mediaType)

end Query

/-- Tests are tried in order, which does not show where all can be evaluated. -/
theorem allMatch_iff {ts : List FeatureTest} (h : ∀ t ∈ ts, ∃ b, t.matches root env = .ok b) :
    ∃ b, allMatch root env ts = .ok b ∧ (b ↔ ∀ t ∈ ts, t.Holds root env) := by
  induction ts with
  | nil => exact ⟨true, rfl, by simp⟩
  | cons t ts ih =>
    obtain ⟨⟨b, hb⟩, hts⟩ := List.forall_mem_cons.1 h
    have hholds := FeatureTest.matches_iff_holds hb
    rw [allMatch, hb]
    simp only [List.forall_mem_cons, ← hholds]
    cases b with
    | false => exact ⟨false, rfl, by simp⟩ -- the tests after a failed one are not reached
    | true => simpa using ih hts

theorem Query.matches_iff {q : Query} (h : ∀ t ∈ q.tests, ∃ b, t.matches root env = .ok b) :
    ∃ b, q.matches root env = .ok b ∧ (b ↔ q.Satisfied root env) := by
  obtain ⟨b, hall, hholds⟩ := allMatch_iff h
  have hsome : ¬ b ↔ ∃ t ∈ q.tests, ¬ t.Holds root env := by
    simp only [hholds, not_forall, exists_prop]
  rw [Query.matches, Query.Satisfied, hall, ← typeMatches_iff, ← hholds, ← hsome]
  cases q.inverse <;> cases q.typeMatches env <;> cases b <;> exact ⟨_, rfl, by simp⟩

/-! ### Query lists -/

/--
**The matcher decides the meaning of a query list.** Where every test can be evaluated, the answer
is whether the environment satisfies one of the queries.
-/
theorem matches_iff_satisfied {qs : QueryList}
    (h : ∀ q ∈ qs, ∀ t ∈ q.tests, ∃ b, t.matches root env = .ok b) :
    ∃ b, qs.matches root env = .ok b ∧ (b ↔ ∃ q ∈ qs, q.Satisfied root env) := by
  induction qs with
  | nil => exact ⟨false, rfl, by simp⟩
  | cons q qs ih =>
    obtain ⟨hq, hqs⟩ := List.forall_mem_cons.1 h
    obtain ⟨b, hb, hsat⟩ := Query.matches_iff hq
    rw [QueryList.matches, hb]
    simp only [List.mem_cons, exists_eq_or_imp, ← hsat]
    cases b with
    | true => exact ⟨true, rfl, by simp⟩
    | false => simpa using ih hqs

/-- A false keyword fails the first query; its type and its test satisfy the inverted second one. -/
theorem satisfied_not_print :
    let env : Environment :=
      ⟨[("type", .ofString "screen"), ("width", .int 1024), ("hover", .ofString " None")],
        by decide⟩
    let qs : QueryList :=
      [⟨"screen", false, [⟨"width", some .min, some "48em"⟩, ⟨"hover", none, none⟩]⟩,
        ⟨"print", true, [⟨"width", some .max, some "800px"⟩]⟩]
    (∀ q ∈ qs, ∀ t ∈ q.tests, ∃ b, t.matches (Measure.ofNat 16) env = .ok b) ∧
      ∃ q ∈ qs, q.Satisfied (Measure.ofNat 16) env := by
  intro env qs
  have heval : ∀ q ∈ qs, ∀ t ∈ q.tests, ∃ b, t.matches (Measure.ofNat 16) env = .ok b := by
    decide +kernel
  have htrue : qs.matches (Measure.ofNat 16) env = .ok true := by
    decide +kernel
  obtain ⟨b, hb, hsat⟩ := matches_iff_satisfied heval
  rw [htrue] at hb
  cases hb
  exact ⟨heval, hsat.1 rfl⟩

end MediaQuery
