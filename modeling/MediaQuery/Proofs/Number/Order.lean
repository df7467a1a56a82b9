import MediaQuery.Number.Binary64

/-!
# The order of binary64 numbers

Comparisons as relations on places of the line: `Below`, `Same` and `AtMost`. NaN stands in none of
them, and any two other numbers are compared (`below_or_same_or_below`). `Close` is equality up to a
tolerance, and `near_iff` says that it is what is computed.
-/

namespace MediaQuery.Binary64

variable {a b : Binary64}

/-- Both numbers have places, the first one before the second. -/
def Below (a b : Binary64) : Prop := ∃ x y, a.position = some x ∧ b.position = some y ∧ x < y

/-- Both numbers have the same place. -/
def Same (a b : Binary64) : Prop := ∃ x, a.position = some x ∧ b.position = some x

/-- Both numbers have places, the first one not after the second. -/
def AtMost (a b : Binary64) : Prop := a.Below b ∨ a.Same b

/-- Neither NaN nor infinite. -/
def Finite (a : Binary64) : Prop := ∃ negative units, a = .finite negative units

/--
The same number, or finite numbers whose distance is at most the absolute tolerance or the relative
tolerance of one of them.
-/
def Close (tolerance : Tolerance) (a b : Binary64) : Prop :=
  a.Same b ∨ a.Finite ∧ b.Finite ∧
    ∃ limit ∈ [(tolerance.relative.mul b).abs, (tolerance.relative.mul a).abs, tolerance.absolute],
      (b.sub a).abs.AtMost limit

theorem lt_iff : a.lt b ↔ a.Below b := by
  unfold lt Below
  cases a.position with
  | none => simp
  | some x => cases b.position <;> simp

theorem eq_iff : a.eq b ↔ a.Same b := by
  unfold eq Same
  cases a.position with
  | none => simp
  | some x =>
    cases b.position with
    | none => simp
    | some y => simpa using eq_comm

theorem le_iff : a.le b ↔ a.AtMost b := by
  rw [le, Bool.or_eq_true, lt_iff, eq_iff, AtMost]

/-! ### The line -/

theorem exists_position (h : a ≠ .nan) : ∃ x, a.position = some x := by
  cases a with
  | nan => exact absurd rfl h
  | infinity negative => exact ⟨_, rfl⟩
  | finite negative units => exact ⟨_, rfl⟩

theorem ne_nan_of_position {x : Int} (h : a.position = some x) : a ≠ .nan := by
  rintro rfl
  cases h

theorem Below.ne_nan (h : a.Below b) : a ≠ .nan ∧ b ≠ .nan := by
  obtain ⟨x, y, ha, hb, -⟩ := h
  exact ⟨ne_nan_of_position ha, ne_nan_of_position hb⟩

theorem Below.asymm (h : a.Below b) : ¬ b.Below a := by
  obtain ⟨x, y, ha, hb, hxy⟩ := h
  rintro ⟨y', x', hb', ha', hyx⟩
  rw [ha, Option.some.injEq] at ha'
  rw [hb, Option.some.injEq] at hb'
  omega

theorem Same.ne_nan (h : a.Same b) : a ≠ .nan ∧ b ≠ .nan := by
  obtain ⟨x, ha, hb⟩ := h
  exact ⟨ne_nan_of_position ha, ne_nan_of_position hb⟩

/-- Numbers other than NaN are in order. -/
theorem below_or_same_or_below (ha : a ≠ .nan) (hb : b ≠ .nan) :
    a.Below b ∨ a.Same b ∨ b.Below a := by
  obtain ⟨x, hx⟩ := exists_position ha
  obtain ⟨y, hy⟩ := exists_position hb
  rcases Int.lt_trichotomy x y with hlt | rfl | hgt
  · exact .inl ⟨x, y, hx, hy, hlt⟩
  · exact .inr (.inl ⟨x, hx, hy⟩)
  · exact .inr (.inr ⟨y, x, hy, hx, hgt⟩)

/-! ### Equality up to a tolerance -/

theorem Finite.ne_nan (h : a.Finite) : a ≠ .nan := by
  obtain ⟨negative, units, rfl⟩ := h
  nofun

theorem Close.ne_nan {tolerance : Tolerance} (h : Close tolerance a b) : a ≠ .nan ∧ b ≠ .nan := by
  rcases h with hsame | ⟨ha, hb, -⟩
  · exact hsame.ne_nan
  · exact ⟨ha.ne_nan, hb.ne_nan⟩

theorem not_le_nan : ¬ Binary64.nan.le a := by
  rw [le_iff]
  rintro (⟨x, y, hx, -⟩ | ⟨x, hx, -⟩)
  · cases hx
  · cases hx

/-- What has a distance and is not infinite is finite. -/
theorem finite_of_le {limit : Binary64} (h : (b.sub a).abs.le limit) (ha : ¬ a.isInfinite)
    (hb : ¬ b.isInfinite) : a.Finite ∧ b.Finite := by
  cases a with
  | nan =>
    cases b <;> exact absurd h not_le_nan
  | infinity negative => exact absurd rfl ha
  | finite negative units =>
    cases b with
    | nan => exact absurd h not_le_nan
    | infinity negative' => exact absurd rfl hb
    | finite negative' units' => exact ⟨⟨_, _, rfl⟩, _, _, rfl⟩

theorem Finite.not_isInfinite (h : a.Finite) : ¬ a.isInfinite := by
  obtain ⟨negative, units, rfl⟩ := h
  exact Bool.false_ne_true

/-- **Equality up to a tolerance is computed.** -/
theorem near_iff {tolerance : Tolerance} : near tolerance a b ↔ Close tolerance a b := by
  rw [near, Close]
  by_cases hsame : a.eq b
  · simp [hsame, eq_iff.1 hsame]
  have hsame' : ¬ a.Same b := fun h => hsame (eq_iff.2 h)
  rw [if_neg hsame]
  by_cases hinf : a.isInfinite || b.isInfinite
  · rw [if_pos hinf]
    rw [Bool.or_eq_true] at hinf
    constructor
    · exact fun h => absurd h Bool.false_ne_true
    · rintro (h | ⟨ha, hb, -⟩)
      · exact absurd h hsame'
      · exact hinf.elim (fun h => absurd h ha.not_isInfinite) fun h => absurd h hb.not_isInfinite
  · rw [if_neg hinf]
    rw [Bool.or_eq_true, not_or] at hinf
    have hlimits : (((b.sub a).abs.le (tolerance.relative.mul b).abs ||
        (b.sub a).abs.le (tolerance.relative.mul a).abs ||
        (b.sub a).abs.le tolerance.absolute) : Prop) ↔
        ∃ limit ∈ [(tolerance.relative.mul b).abs, (tolerance.relative.mul a).abs,
          tolerance.absolute], (b.sub a).abs.AtMost limit := by
      simp [le_iff, or_assoc]
    refine hlimits.trans ⟨fun h => ?_, fun h => ?_⟩
    · obtain ⟨limit, -, hle⟩ := id h
      obtain ⟨ha, hb⟩ := finite_of_le (le_iff.2 hle) hinf.1 hinf.2
      exact .inr ⟨ha, hb, h⟩
    · exact (h.resolve_left hsame').2.2

end MediaQuery.Binary64
