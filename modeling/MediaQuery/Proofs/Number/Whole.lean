import MediaQuery.Matching
import MediaQuery.Proofs.Number.Exact
import MediaQuery.Proofs.Number.Order
import Mathlib.Data.Nat.Digits.Lemmas

/-!
# Whole numbers

Integers as binary64 numbers. An integer that is given as a number, as its digits or as a number
without fraction is the same number (`ofDecimal_of_ofInt?`, `ofInt?_of_toInt?`), except that zero
keeps a sign; `Alike` is equality but for that sign, which no comparison sees
(`compareNumbers_congr`). Integers below `10 ^ 9` are compared as integers, for the tolerance does
not reach from one to the next (`compareNumbers_whole`).
-/

namespace MediaQuery

/-- Equality of integers, or a bound, the actual one first. -/
def compareIntegers (modifier : Option Modifier) (actual expected : Int) : Bool :=
  match modifier with
  | some .min => decide (expected ≤ actual)
  | some .max => decide (actual ≤ expected)
  | none => decide (expected = actual)

namespace Binary64

variable {i : Int} {x y : Binary64}

/-! ### Integers -/

/-- The number nearest to an integer. -/
def whole (i : Int) : Binary64 := nearest (decide (i < 0)) (i.natAbs * one) 1

theorem round?_mul_one {k : Nat} (h : k ≤ pow2 53) : Units.round? (k * one) 1 = some (.ofNat k h) :=
  (Units.ofNat k h).round?_count

/-- An integer of few enough digits is kept as it is. -/
theorem whole_eq (h : i.natAbs ≤ pow2 53) :
    whole i = .finite (decide (i < 0)) (.ofNat i.natAbs h) :=
  nearest_of_round? (round?_mul_one h) _

theorem ofInt?_eq_whole (h : i.natAbs ≤ pow2 53) : ofInt? i = some (whole i) := by
  rw [ofInt?, round?_mul_one h, Option.map_some, whole_eq h]

/-- An integer with a number has fewer digits than the powers of ten that are infinite. -/
theorem decimalLength_le_of_ofInt? (h : ofInt? i = some x) : decimalLength i.natAbs ≤ 310 := by
  have hfinite : ¬ overflow * 1 ≤ i.natAbs := by
    obtain ⟨units, hunits, -⟩ := Option.map_eq_some_iff.1 h
    rw [← ofQuotient?_eq_none_iff Nat.one_pos, ofQuotient?, hunits]
    exact Option.some_ne_none _
  have hpower : overflow * 1 ≤ 10 ^ 310 := by decide +kernel
  rw [decimalLength]
  split_ifs with hzero
  · omega
  · rw [Nat.length_toDigits_le_iff (by decide) (by decide)]
    omega

/-- **The digits of an integer are read as the integer.** -/
theorem ofDecimal_of_ofInt? (h : ofInt? i = some x) :
    ofDecimal (decide (i < 0)) i.natAbs 0 = x := by
  have hsize := decimalLength_le_of_ofInt? h
  obtain ⟨units, hunits, rfl⟩ := Option.map_eq_some_iff.1 h
  unfold ofDecimal
  dsimp only
  by_cases hzero : i.natAbs = 0
  · have hround : roundUnits 0 1 = 0 := by decide
    rw [hzero, Nat.zero_mul, Units.round?_eq_some_iff, hround] at hunits
    have hcount : units = .zero := Units.ext hunits.symm
    rw [if_pos hzero, hcount]
  · have hpower : pow10 (0 : Int).toNat = 1 := rfl
    rw [if_neg hzero, if_neg (by omega), if_neg (by omega), if_pos le_rfl, hpower, Nat.mul_one,
      nearest_of_round? hunits]

theorem ofDecimal_eq_whole (h : i.natAbs ≤ pow2 53) :
    ofDecimal (decide (i < 0)) i.natAbs 0 = whole i :=
  ofDecimal_of_ofInt? (ofInt?_eq_whole h)

/-! ### Numbers but for the sign of zero -/

/-- The same number, or two zeros. -/
def Alike (x y : Binary64) : Prop := x = y ∨ ∃ a b, x = .finite a .zero ∧ y = .finite b .zero

theorem Alike.refl (x : Binary64) : Alike x x := .inl rfl

theorem alike_zero (a b : Bool) : Alike (.finite a .zero) (.finite b .zero) := .inr ⟨a, b, rfl, rfl⟩

theorem Alike.symm (h : Alike x y) : Alike y x := by
  rcases h with rfl | ⟨a, b, rfl, rfl⟩
  · exact .refl x
  · exact .inr ⟨b, a, rfl, rfl⟩

theorem Alike.trans {z : Binary64} (h : Alike x y) (h' : Alike y z) : Alike x z := by
  rcases h with rfl | ⟨a, b, rfl, rfl⟩
  · exact h'
  · rcases h' with rfl | ⟨b', c, -, rfl⟩
    · exact .inr ⟨a, b, rfl, rfl⟩
    · exact .inr ⟨a, c, rfl, rfl⟩

theorem Alike.isNaN_eq (h : Alike x y) : x.isNaN = y.isNaN := by
  rcases h with rfl | ⟨a, b, rfl, rfl⟩ <;> rfl

theorem Alike.position_eq (h : Alike x y) : x.position = y.position := by
  rcases h with rfl | ⟨a, b, rfl, rfl⟩
  · rfl
  · cases a <;> cases b <;> rfl

/-- The units of a number without fraction. -/
theorem toInt?_finite {negative : Bool} {units : Units}
    (h : (finite negative units).toInt? = some i) :
    units.count = i.natAbs * one ∧ (i ≠ 0 → negative = decide (i < 0)) := by
  rw [toInt?] at h
  split_ifs at h with hfraction hnegative
  all_goals
    have hunits := Nat.div_mul_cancel (Nat.dvd_of_mod_eq_zero hfraction)
    generalize units.count / one = k at *
    cases h
  · rw [Int.natAbs_neg, Int.natAbs_natCast]
    exact ⟨hunits.symm, fun hi => by simp [hnegative]; omega⟩
  · rw [Int.natAbs_natCast]
    exact ⟨hunits.symm, fun _ => by simp [hnegative]⟩

/-- **A number without fraction is that of its integer.** -/
theorem ofInt?_of_toInt? (h : x.toInt? = some i) : ∃ y, ofInt? i = some y ∧ Alike x y := by
  cases x with
  | nan => cases h
  | infinity negative => cases h
  | finite negative units =>
    obtain ⟨hunits, hnegative⟩ := toInt?_finite h
    have hround : Units.round? (i.natAbs * one) 1 = some units := hunits ▸ units.round?_count
    refine ⟨.finite (decide (i < 0)) units, by rw [ofInt?, hround, Option.map_some], ?_⟩
    by_cases hzero : i = 0
    · have hcount : units = .zero := Units.ext <| by
        rw [hunits, hzero, Int.natAbs_zero, Nat.zero_mul, Units.zero_count]
      rw [hcount]
      exact alike_zero _ _
    · rw [hnegative hzero]
      exact .refl _

theorem eq_of_signed_eq {s t : Bool} {a b : Nat}
    (h : (if s then -(a : Int) else a) = if t then -(b : Int) else b) :
    a = b ∧ (s = t ∨ a = 0) := by
  cases s <;> cases t <;> simp at h ⊢ <;> omega

/-- Numbers of one place are the same but for the sign of zero. -/
theorem Same.alike (h : x.Same y) : Alike x y := by
  obtain ⟨p, hxp, hyp⟩ := h
  have hplace : x.position = y.position := hxp.trans hyp.symm
  cases x with
  | nan => cases hxp
  | infinity s =>
    cases y with
    | nan => cases hyp
    | infinity t =>
      obtain ⟨-, rfl | hzero⟩ := eq_of_signed_eq (Option.some.inj hplace)
      · exact .refl _
      · exact absurd hzero (pow2_pos 2098).ne'
    | finite t v => exact absurd (eq_of_signed_eq (Option.some.inj hplace)).1 v.lt_limit.ne'
  | finite s u =>
    cases y with
    | nan => cases hyp
    | infinity t => exact absurd (eq_of_signed_eq (Option.some.inj hplace)).1 u.lt_limit.ne
    | finite t v =>
      obtain ⟨hcount, rfl | hzero⟩ := eq_of_signed_eq (Option.some.inj hplace)
      · rw [Units.ext hcount]
        exact .refl _
      · rw [show u = .zero from Units.ext hzero, show v = .zero from Units.ext (hcount ▸ hzero)]
        exact alike_zero s t

/-! ### Arithmetic -/

theorem abs_nearest (negative : Bool) (n d : Nat) :
    (nearest negative n d).abs = nearest false n d := by
  unfold nearest
  cases Units.round? n d <;> rfl

theorem abs_nearest_mul_one {k : Nat} (negative : Bool) (h : k ≤ pow2 53) :
    (nearest negative (k * one) 1).abs = .finite false (.ofNat k h) := by
  rw [abs_nearest, nearest_of_round? (round?_mul_one h)]

theorem Alike.mul (h : Alike x y) (z : Binary64) : Alike (x.mul z) (y.mul z) := by
  rcases h with rfl | ⟨a, b, rfl, rfl⟩
  · exact .refl _
  · have hround : Units.round? 0 one = some .zero := by
      simpa using Units.zero.round?_mul one_pos
    cases z with
    | nan => exact .refl _
    | infinity negative => exact .refl _
    | finite negative units =>
      simp only [Binary64.mul, Units.zero_count, Nat.zero_mul, nearest_of_round? hround]
      exact alike_zero _ _

theorem mul_comm (x y : Binary64) : x.mul y = y.mul x := by
  cases x <;> cases y <;> simp [Binary64.mul, bne_comm, Nat.mul_comm]

theorem Alike.abs_eq (h : Alike x y) : x.abs = y.abs := by
  rcases h with rfl | ⟨a, b, rfl, rfl⟩ <;> rfl

/-- Adding a zero: its sign only shows in the sign of the sum. -/
theorem abs_addCounts_zero (a b : Bool) (m : Nat) :
    (addCounts a m b 0).abs = (addCounts a m false 0).abs := by
  have hround : Units.round? 0 1 = some .zero := Units.zero.round?_count
  have hzero : ∀ c, (nearest c 0 1).abs = zero := fun c => by
    rw [abs_nearest, nearest_of_round? hround, zero]
  simp only [addCounts, Nat.add_zero, Nat.sub_zero]
  rcases Nat.eq_zero_or_pos m with rfl | hpos
  · split_ifs <;> simp only [hzero] <;> rfl
  · simp only [if_neg hpos.ne', if_pos hpos, ite_self]

theorem Alike.abs_sub_eq (h : Alike x y) (z : Binary64) : (z.sub x).abs = (z.sub y).abs := by
  rcases h with rfl | ⟨a, b, rfl, rfl⟩
  · rfl
  · cases z with
    | nan => rfl
    | infinity negative => rfl
    | finite negative units =>
      rw [sub, sub, neg, neg, add, add, Units.zero_count, abs_addCounts_zero _ (!a),
        abs_addCounts_zero _ (!b)]

/-- The difference of two integers that are not too large. -/
theorem abs_sub_whole {a b : Int} (ha : a.natAbs ≤ pow2 53) (hb : b.natAbs ≤ pow2 53)
    (h : (a - b).natAbs ≤ pow2 53) :
    ((whole a).sub (whole b)).abs = .finite false (.ofNat (a - b).natAbs h) := by
  have hone := one_pos
  rw [whole_eq ha, whole_eq hb, sub, neg, add, Units.ofNat_count, Units.ofNat_count,
    ← abs_nearest_mul_one false h, addCounts]
  split_ifs with hsign hsame hless
  · have hsum : a.natAbs * one + b.natAbs * one = (a - b).natAbs * one := by
      rw [← Nat.add_mul]
      congr 1
      by_cases ha : a < 0 <;> by_cases hb : b < 0 <;> simp [ha, hb] at hsign <;> omega
    rw [hsum, abs_nearest, abs_nearest]
  · have hzero : (a - b).natAbs = 0 := by
      have := Nat.eq_of_mul_eq_mul_right hone hsame
      by_cases ha : a < 0 <;> by_cases hb : b < 0 <;> simp [ha, hb] at hsign <;> omega
    have hround : Units.round? 0 1 = some .zero := Units.zero.round?_count
    rw [hzero, Nat.zero_mul, nearest_of_round? hround, zero]
  · have hdiff : a.natAbs * one - b.natAbs * one = (a - b).natAbs * one := by
      have := Nat.lt_of_mul_lt_mul_right hless
      rw [← Nat.sub_mul]
      congr 1
      by_cases ha : a < 0 <;> by_cases hb : b < 0 <;> simp [ha, hb] at hsign <;> omega
    rw [hdiff, abs_nearest, abs_nearest]
  · have hdiff : b.natAbs * one - a.natAbs * one = (a - b).natAbs * one := by
      have hle := Nat.le_of_mul_le_mul_right (not_lt.1 hless) hone
      rw [← Nat.sub_mul]
      congr 1
      by_cases ha : a < 0 <;> by_cases hb : b < 0 <;> simp [ha, hb] at hsign <;> omega
    rw [hdiff, abs_nearest, abs_nearest]

/-! ### Comparisons -/

theorem Alike.near_eq (h : Alike x y) (tolerance : Tolerance) (z : Binary64) :
    near tolerance x z = near tolerance y z := by
  have hinfinite : x.isInfinite = y.isInfinite := by
    rcases h with rfl | ⟨a, b, rfl, rfl⟩ <;> rfl
  have hlimit : (tolerance.relative.mul x).abs = (tolerance.relative.mul y).abs := by
    rw [mul_comm _ x, mul_comm _ y, (h.mul _).abs_eq]
  simp only [near, eq, h.position_eq, hinfinite, h.abs_sub_eq, hlimit]

theorem position_whole (h : i.natAbs ≤ pow2 53) : (whole i).position = some (i * one) := by
  rw [whole_eq h, position, Units.ofNat_count, Nat.cast_mul, Option.some.injEq]
  by_cases hneg : i < 0
  · rw [if_pos (decide_eq_true hneg), ← Int.neg_mul, show -(i.natAbs : Int) = i by omega]
  · rw [if_neg (mt of_decide_eq_true hneg), show (i.natAbs : Int) = i by omega]

theorem lt_whole_iff {a b : Int} (ha : a.natAbs ≤ pow2 53) (hb : b.natAbs ≤ pow2 53) :
    (whole a).lt (whole b) ↔ a < b := by
  have hone : (0 : Int) < one := by exact_mod_cast one_pos
  rw [lt, position_whole ha, position_whole hb, decide_eq_true_eq]
  exact Int.mul_lt_mul_right hone

/-- **The sign of zero makes no difference** to what is compared. -/
theorem compareNumbers_congr {x y : Binary64} (h : Alike x y) (modifier : Option Modifier)
    (expected : Binary64) :
    compareNumbers modifier x expected = compareNumbers modifier y expected := by
  simp only [compareNumbers, lt, h.near_eq, h.position_eq]

/-! ### The tolerance between integers -/

/-- The units of `10 ^ -9`. -/
def billionth : Units :=
  ⟨roundUnits one (pow10 9), exactUnits_roundUnits _ _, by decide +kernel⟩

theorem tolerance_eq : tolerance = ⟨.finite false billionth, .finite false billionth⟩ := by
  have hround : ofDecimal false 1 (-9) = .finite false billionth := by decide +kernel
  rw [tolerance, hround]

/-- A billionth of all integers below `10 ^ 9` is less than one by more than rounding makes up. -/
theorem billionth_mul_lt : 2 * (billionth.count * (10 ^ 9 - 1)) + pow2 1021 < 2 * one := by
  decide +kernel

theorem billionth_lt_one : billionth.count < one := by
  have hle : billionth.count ≤ billionth.count * (10 ^ 9 - 1) :=
    Nat.le_mul_of_pos_right _ (by decide)
  have htwice : 2 * billionth.count < 2 * one :=
    ((Nat.mul_le_mul_left 2 hle).trans (Nat.le_add_right _ _)).trans_lt billionth_mul_lt
  exact Nat.lt_of_mul_lt_mul_left htwice

/-- A billionth of an integer below `10 ^ 9` is less than one. -/
theorem roundUnits_billionth_lt {k : Nat} (h : k < 10 ^ 9) :
    roundUnits (billionth.count * (k * one)) one < one := by
  have hk : 2 * (billionth.count * k) + pow2 1021 < 2 * one :=
    (Nat.add_le_add_right (Nat.mul_le_mul_left 2 (Nat.mul_le_mul_left _ (by omega))) _).trans_lt
      billionth_mul_lt
  have hone : pow2 (1021 + 53) = one := rfl
  have hiff := roundUnits_lt_iff (n := billionth.count * (k * one)) (m := 1021) one_pos
  rw [hone] at hiff
  rw [hiff]
  calc 2 * (billionth.count * (k * one)) + one * pow2 1021
      = (2 * (billionth.count * k) + pow2 1021) * one := by ring
    _ < 2 * one * one := Nat.mul_lt_mul_of_pos_right hk one_pos
    _ = 2 * (one * one) := by ring

/-- What the tolerance allows around an integer below `10 ^ 9` is less than one. -/
theorem abs_billionth_mul_whole (h : i.natAbs < 10 ^ 9) :
    ∃ units, ((Binary64.finite false billionth).mul (whole i)).abs = .finite false units ∧
      units.count < one := by
  have hbound : 10 ^ 9 ≤ pow2 53 := by decide
  have hlt := roundUnits_billionth_lt h
  have hlimit := hlt.trans (pow2_lt_pow2 (by omega) : one < unitsLimit)
  have hround : Units.round? (billionth.count * (i.natAbs * one)) one =
      some ⟨_, exactUnits_roundUnits _ _, hlimit⟩ := Units.round?_eq_some_iff.2 rfl
  rw [whole_eq (h.le.trans hbound), mul, abs_nearest, Units.ofNat_count, nearest_of_round? hround]
  exact ⟨_, rfl, hlt⟩

/-- **The tolerance tells integers apart** below `10 ^ 9`. -/
theorem near_whole_iff {a b : Int} (ha : a.natAbs < 10 ^ 9) (hb : b.natAbs < 10 ^ 9) :
    near tolerance (whole a) (whole b) ↔ a = b := by
  have hbound : 10 ^ 9 + 10 ^ 9 < pow2 53 := by decide
  have hplace : ∀ i : Int, i.natAbs < 10 ^ 9 → (whole i).position = some (i * one) :=
    fun i hi => position_whole (by omega)
  constructor
  · intro h
    by_contra hne
    have hdistance := abs_sub_whole (a := b) (b := a) (by omega) (by omega) (by omega)
    have hfar : one ≤ (b - a).natAbs * one := Nat.le_mul_of_pos_left one (by omega)
    rcases near_iff.1 h with ⟨p, hpa, hpb⟩ | ⟨-, -, limit, hmem, hle⟩
    · rw [hplace _ ha] at hpa
      rw [hplace _ hb] at hpb
      have hone : (one : Int) ≠ 0 := by exact_mod_cast one_pos.ne'
      exact hne (Int.eq_of_mul_eq_mul_right hone (Option.some.inj (hpa.trans hpb.symm)))
    · -- each of the three limits is less than one, and the distance is at least one
      have hsmall : ∃ units, limit = .finite false units ∧ units.count < one := by
        rw [tolerance_eq] at hmem
        simp only [List.mem_cons, List.not_mem_nil, or_false] at hmem
        rcases hmem with hlimit | hlimit | hlimit
        · rw [hlimit]
          exact abs_billionth_mul_whole hb
        · rw [hlimit]
          exact abs_billionth_mul_whole ha
        · exact ⟨billionth, hlimit, billionth_lt_one⟩
      obtain ⟨units, rfl, hunits⟩ := hsmall
      rw [hdistance] at hle
      rcases hle with ⟨p, q, hp, hq, hpq⟩ | ⟨p, hp, hq⟩
      · cases hp
        cases hq
        simp only [Units.ofNat_count, Bool.false_eq_true, if_false, Nat.cast_lt] at hpq
        omega
      · cases hp
        simp only [position, Units.ofNat_count, Bool.false_eq_true, if_false, Option.some.injEq,
          Nat.cast_inj] at hq
        omega
  · rintro rfl
    exact near_iff.2 (.inl ⟨_, hplace a ha, hplace a ha⟩)

/-- **Integers below `10 ^ 9` are compared as integers.** -/
theorem compareNumbers_whole {a b : Int} (ha : a.natAbs < 10 ^ 9) (hb : b.natAbs < 10 ^ 9)
    (modifier : Option Modifier) :
    compareNumbers modifier (whole a) (whole b) = compareIntegers modifier a b := by
  have hbound : 10 ^ 9 ≤ pow2 53 := by decide
  have hlt : ∀ i j : Int, i.natAbs < 10 ^ 9 → j.natAbs < 10 ^ 9 →
      ((whole i).lt (whole j) ↔ i < j) := fun i j hi hj => lt_whole_iff (by omega) (by omega)
  rw [Bool.eq_iff_iff]
  cases modifier with
  | none => simp [compareNumbers, compareIntegers, near_whole_iff ha hb, eq_comm]
  | some m =>
    cases m with
    | min =>
      simp only [compareNumbers, compareIntegers, Bool.or_eq_true, near_whole_iff ha hb,
        hlt b a hb ha, decide_eq_true_eq]
      omega
    | max =>
      simp only [compareNumbers, compareIntegers, Bool.or_eq_true, near_whole_iff ha hb,
        hlt a b ha hb, decide_eq_true_eq]
      omega

end Binary64

end MediaQuery
