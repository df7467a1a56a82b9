import MediaQuery.Proofs.Number.Exact
import Mathlib.Algebra.Order.Field.Basic
import Mathlib.Data.Rat.Cast.Order
import Mathlib.Tactic.FieldSimp
import Mathlib.Tactic.Linarith
import Mathlib.Tactic.Positivity

/-!
# What rounding computes

Correct rounding, said without a computation: `RoundsTo x units` if no exact count of units is
nearer to `x`, and of two that are equally near the one with an even significand is taken. There is
one such count for every quotient, and it is the rounded one (`roundsTo_iff`).

A quotient lies between two neighbours, multiples of its spacing with no exact count between them
(`ExactUnits.le_or_le`), so that only those two need to be compared.
-/

namespace MediaQuery.Binary64

variable {n d u w m s : Nat}

/-! ### Exact units by their digits -/

/-- The leading digits of a count of units, up to 53 of them. -/
def significand (units : Nat) : Nat := units / pow2 (spacing units)

theorem significand_lt (u : Nat) : significand u < pow2 53 := by
  rw [significand, Nat.div_lt_iff_lt_mul (pow2_pos _), ← pow2_add, Nat.add_comm]
  exact lt_pow2_spacing u

theorem ExactUnits.significand_mul (h : ExactUnits u) : significand u * pow2 (spacing u) = u :=
  Nat.div_mul_cancel h

/-- **Exact units are the numbers of 53 binary digits** with any number of zeros behind them. -/
theorem exactUnits_iff : ExactUnits u ↔ ∃ q m, q < pow2 53 ∧ u = q * pow2 m := by
  constructor
  · exact fun h => ⟨significand u, spacing u, significand_lt u, h.significand_mul.symm⟩
  · rintro ⟨q, m, hq, rfl⟩
    exact exactUnits_mul hq.le

/-- A spacing other than one is that of a number of all 53 digits. -/
theorem le_significand (h : spacing u ≠ 0) : pow2 52 ≤ significand u := by
  have hu : u ≠ 0 := by
    rintro rfl
    exact h (by decide)
  have hlog : 52 + spacing u = u.log2 := by
    unfold spacing at h ⊢
    omega
  rw [significand, Nat.le_div_iff_mul_le (pow2_pos _), ← pow2_add, hlog]
  exact Nat.log2_self_le hu

/-- The spacing of a number with all its digits, and of one with fewer. -/
theorem spacing_mul (hm : m < pow2 53) (hs : s = 0 ∨ pow2 52 ≤ m) : spacing (m * pow2 s) = s := by
  have hhigh : m * pow2 s < pow2 (s + 53) := by
    rw [Nat.add_comm, pow2_add]
    exact Nat.mul_lt_mul_of_pos_right hm (pow2_pos s)
  rcases hs with rfl | hfull
  · have hle := spacing_le_of_lt hhigh
    omega
  · refine spacing_eq ?_ hhigh
    rw [Nat.add_comm, pow2_add]
    exact Nat.mul_le_mul_right _ hfull

theorem significand_mul_of_lt (hm : m < pow2 53) (hs : s = 0 ∨ pow2 52 ≤ m) :
    significand (m * pow2 s) = m := by
  rw [significand, spacing_mul hm hs, Nat.mul_div_cancel _ (pow2_pos s)]

/-- An even number of spacings has an even significand, also where one more digit is needed. -/
theorem significand_even (hm : m ≤ pow2 53) (hs : s = 0 ∨ pow2 52 ≤ m) (heven : m % 2 = 0) :
    significand (m * pow2 s) % 2 = 0 := by
  rcases hm.lt_or_eq with hlt | rfl
  · rwa [significand_mul_of_lt hlt hs]
  · have hcarry : pow2 53 * pow2 s = pow2 52 * pow2 (s + 1) := by
      rw [← pow2_add, ← pow2_add]
      congr 1
      omega
    rw [hcarry, significand_mul_of_lt (pow2_lt_pow2 (by omega)) (.inr le_rfl)]
    decide

/-! ### Neighbours -/

/-- **No exact units lie between two neighbours** `a` and `a + 1` spacings. -/
theorem ExactUnits.le_or_le (h : ExactUnits w) (u : Nat) :
    w ≤ significand u * pow2 (spacing u) ∨ (significand u + 1) * pow2 (spacing u) ≤ w := by
  rcases Nat.lt_or_ge (significand u * pow2 (spacing u)) w with hlt | hge
  · right
    have hspacing : spacing u ≤ spacing w := by
      by_cases hzero : spacing u = 0
      · omega
      · have hbase : spacing (significand u * pow2 (spacing u)) = spacing u :=
          spacing_mul (significand_lt u) (.inr (le_significand hzero))
        exact hbase ▸ spacing_mono hlt.le
    obtain ⟨j, rfl⟩ : pow2 (spacing u) ∣ w := (Nat.pow_dvd_pow 2 hspacing).trans h
    rw [Nat.mul_comm (pow2 (spacing u))] at hlt ⊢
    exact Nat.mul_le_mul_right _ (Nat.lt_of_mul_lt_mul_right hlt)
  · exact .inl hge

/-! ### Correct rounding -/

/--
The count of units that `x` is rounded to: exact, as near as any exact count, and with an even
significand if another one is as near. The counts are those of numbers of any size.
-/
structure RoundsTo (x : ℚ) (units : Nat) : Prop where
  exact : ExactUnits units
  nearest : ∀ w, ExactUnits w → |(units : ℚ) - x| ≤ |(w : ℚ) - x|
  ties_to_even : ∀ w, ExactUnits w → w ≠ units → |(w : ℚ) - x| = |(units : ℚ) - x| →
    significand units % 2 = 0

/-- Of two neighbours, `x` between them is rounded to the nearer one, at a tie to the even one. -/
theorem RoundsTo.of_neighbours {x : ℚ} {low high other : Nat} (hu : ExactUnits u)
    (hgap : ∀ w, ExactUnits w → w ≤ low ∨ high ≤ w) (hlow : (low : ℚ) ≤ x) (hhigh : x ≤ high)
    (hends : u = low ∧ other = high ∨ u = high ∧ other = low)
    (hnear : |(u : ℚ) - x| ≤ |(other : ℚ) - x|)
    (htie : |(u : ℚ) - x| = |(other : ℚ) - x| → significand u % 2 = 0) : RoundsTo x u := by
  -- every exact count lies beyond one of the neighbours, or is that neighbour
  have hbeyond : ∀ w, ExactUnits w → ∃ e, (e = low ∨ e = high) ∧
      |(e : ℚ) - x| ≤ |(w : ℚ) - x| ∧ (|(w : ℚ) - x| = |(e : ℚ) - x| → w = e) := by
    intro w hw
    rcases hgap w hw with hside | hside
    · have hside' : (w : ℚ) ≤ low := by exact_mod_cast hside
      refine ⟨low, .inl rfl, ?_⟩
      rw [abs_of_nonpos (by linarith), abs_of_nonpos (by linarith)]
      refine ⟨by linarith, fun h => ?_⟩
      exact_mod_cast show (w : ℚ) = low by linarith
    · have hside' : (high : ℚ) ≤ w := by exact_mod_cast hside
      refine ⟨high, .inr rfl, ?_⟩
      rw [abs_of_nonneg (by linarith), abs_of_nonneg (by linarith)]
      refine ⟨by linarith, fun h => ?_⟩
      exact_mod_cast show (w : ℚ) = high by linarith
  have heither : ∀ e, e = low ∨ e = high → e = u ∨ e = other := by
    rcases hends with ⟨rfl, rfl⟩ | ⟨rfl, rfl⟩
    · exact fun e he => he
    · exact fun e he => he.symm
  refine ⟨hu, fun w hw => ?_, fun w hw hne hsame => ?_⟩
  · obtain ⟨e, he, hle, -⟩ := hbeyond w hw
    rcases heither e he with rfl | rfl
    · exact hle
    · exact hnear.trans hle
  · obtain ⟨e, he, hle, heq⟩ := hbeyond w hw
    rcases heither e he with rfl | rfl
    · exact absurd (heq hsame) hne
    · exact htie (hnear.antisymm (hle.trans hsame.le))

/-- The two neighbours of a quotient, the way up from the lower one, and which of them is taken. -/
theorem roundUnits_cases (n : Nat) (hd : 0 < d) :
    let low := significand (n / d) * pow2 (spacing (n / d))
    let step : ℚ := pow2 (spacing (n / d))
    ∃ t : ℚ, 0 ≤ t ∧ t < step ∧ (n : ℚ) / d = low + t ∧
      (roundUnits n d = low ∧
          (2 * t < step ∨ 2 * t = step ∧ significand (n / d) % 2 = 0) ∨
        roundUnits n d = low + pow2 (spacing (n / d)) ∧
          (step < 2 * t ∨ 2 * t = step ∧ (significand (n / d) + 1) % 2 = 0)) := by
  dsimp only
  rw [roundUnits, significand]
  generalize spacing (n / d) = s
  rw [Nat.div_div_eq_div_mul]
  have hsum : d * pow2 s * (n / (d * pow2 s)) + n % (d * pow2 s) = n := Nat.div_add_mod _ _
  have hrest : n % (d * pow2 s) < d * pow2 s := Nat.mod_lt _ (Nat.mul_pos hd (pow2_pos s))
  have hd' : (0 : ℚ) < d := by exact_mod_cast hd
  unfold roundQuotient
  dsimp only
  generalize n % (d * pow2 s) = r at *
  generalize n / (d * pow2 s) = a at *
  -- comparing the remainder with half the divisor is comparing the way with half a step
  have hlt : 2 * ((r : ℚ) / d) < pow2 s ↔ 2 * r < d * pow2 s := by
    rw [← mul_div_assoc, div_lt_iff₀ hd', mul_comm (pow2 s : ℚ)]
    exact_mod_cast Iff.rfl
  have heq : 2 * ((r : ℚ) / d) = pow2 s ↔ 2 * r = d * pow2 s := by
    rw [← mul_div_assoc, div_eq_iff hd'.ne', mul_comm (pow2 s : ℚ)]
    exact_mod_cast Iff.rfl
  refine ⟨(r : ℚ) / d, by positivity, ?_, ?_, ?_⟩
  · rw [div_lt_iff₀ hd', mul_comm]
    exact_mod_cast hrest
  · rw [← hsum]
    push_cast
    field_simp
  · rw [heq]
    split_ifs with h
    · exact .inl ⟨rfl, by rwa [hlt]⟩
    · right
      refine ⟨Nat.succ_mul a (pow2 s), ?_⟩
      rw [not_or] at h
      by_cases htie : 2 * r = d * pow2 s
      · exact .inr ⟨htie, by omega⟩
      · left
        exact lt_of_le_of_ne (le_of_not_gt (hlt.not.2 h.1)) fun h' => htie (heq.1 h'.symm)

/-- **A rounded quotient is correctly rounded.** -/
theorem roundsTo_roundUnits (n : Nat) (hd : 0 < d) : RoundsTo ((n : ℚ) / d) (roundUnits n d) := by
  obtain ⟨t, ht0, htstep, hquotient, hcases⟩ := roundUnits_cases n hd
  have hexact := exactUnits_roundUnits n d
  have hgap := fun (w : Nat) (hw : ExactUnits w) => hw.le_or_le (n / d)
  have hfull : spacing (n / d) = 0 ∨ pow2 52 ≤ significand (n / d) :=
    or_iff_not_imp_left.2 le_significand
  have hdigits := significand_lt (n / d)
  generalize roundUnits n d = u at *
  generalize significand (n / d) = a at *
  generalize spacing (n / d) = s at *
  have hsucc : (a + 1) * pow2 s = a * pow2 s + pow2 s := Nat.succ_mul a (pow2 s)
  have hhigh : ((a * pow2 s + pow2 s : Nat) : ℚ) = (a * pow2 s : Nat) + pow2 s := Nat.cast_add _ _
  have hbelow : |((a * pow2 s : Nat) : ℚ) - (n : ℚ) / d| = t := by
    rw [hquotient, abs_of_nonpos (by linarith)]
    ring
  have habove : |((a * pow2 s + pow2 s : Nat) : ℚ) - (n : ℚ) / d| = pow2 s - t := by
    rw [hquotient, hhigh, abs_of_nonneg (by linarith)]
    ring
  simp only [hsucc] at hgap
  rcases hcases with ⟨rfl, hnear⟩ | ⟨rfl, hnear⟩
  · have hhalf : 2 * t ≤ pow2 s := hnear.elim le_of_lt fun h => h.1.le
    refine .of_neighbours hexact hgap (by linarith) (by linarith) (.inl ⟨rfl, rfl⟩) ?_
      fun htie => ?_
    · rw [hbelow, habove]
      linarith
    · rw [hbelow, habove] at htie
      exact significand_even hdigits.le hfull
        (hnear.elim (fun hlt => absurd htie (by linarith)) And.right)
  · have hhalf : (pow2 s : ℚ) ≤ 2 * t := hnear.elim le_of_lt fun h => h.1.ge
    refine .of_neighbours hexact hgap (by linarith) (by linarith) (.inr ⟨rfl, rfl⟩) ?_
      fun htie => ?_
    · rw [hbelow, habove]
      linarith
    · rw [hbelow, habove] at htie
      rw [← hsucc]
      exact significand_even hdigits (hfull.imp_right (by omega))
        (hnear.elim (fun hlt => absurd htie (by linarith)) And.right)

/-- A value between two counts that it is rounded to would be a tie of two even neighbours. -/
theorem RoundsTo.not_lt {x : ℚ} {v : Nat} (hu : RoundsTo x u) (hv : RoundsTo x v) : ¬ u < v := by
  intro hlt
  have hlt' : (u : ℚ) < v := by exact_mod_cast hlt
  have htie : |(u : ℚ) - x| = |(v : ℚ) - x| :=
    (hu.nearest v hv.exact).antisymm (hv.nearest u hu.exact)
  have heven : significand u % 2 = 0 := hu.ties_to_even v hv.exact hlt.ne' htie.symm
  have heven' : significand v % 2 = 0 := hv.ties_to_even u hu.exact hlt.ne htie
  have hmiddle : x - u = v - x := by
    rcases abs_eq_abs.1 htie with h | h
    · exact absurd hlt' (by linarith)
    · linarith
  -- the next count after the lower one is exact, so it is not between them
  have hdigits := significand_lt u
  have hnext : ExactUnits ((significand u + 1) * pow2 (spacing u)) := exactUnits_mul hdigits
  have hself := hu.exact.significand_mul
  have hle : (significand u + 1) * pow2 (spacing u) ≤ v := by
    refine (hv.exact.le_or_le u).resolve_left ?_
    rw [hself]
    exact hlt.not_ge
  have hge : v ≤ (significand u + 1) * pow2 (spacing u) := by
    by_contra hbetween
    have hnear := hv.nearest _ hnext
    have habove : (u : ℚ) < ((significand u + 1) * pow2 (spacing u) : Nat) := by
      rw [Nat.succ_mul, hself]
      exact_mod_cast Nat.lt_add_of_pos_right (pow2_pos _)
    have hbelow : (((significand u + 1) * pow2 (spacing u) : Nat) : ℚ) < v := by
      exact_mod_cast not_le.1 hbetween
    rw [abs_of_nonneg (by linarith)] at hnear
    rcases abs_cases ((((significand u + 1) * pow2 (spacing u) : Nat) : ℚ) - x) with h | h <;>
      linarith
  have hv' : significand v = significand u + 1 := by
    have hlimit : pow2 53 % 2 = 0 := by decide
    rw [hge.antisymm hle]
    refine significand_mul_of_lt (by omega) ?_
    exact (or_iff_not_imp_left.2 le_significand).imp_right fun h => h.trans (Nat.le_succ _)
  omega

/-- **Rounding computes the correctly rounded quotient**, and nothing else is correctly rounded. -/
theorem roundsTo_iff (hd : 0 < d) : RoundsTo ((n : ℚ) / d) u ↔ u = roundUnits n d := by
  have hround := roundsTo_roundUnits n hd
  constructor
  · intro h
    rcases Nat.lt_trichotomy u (roundUnits n d) with hlt | heq | hgt
    · exact absurd hlt (h.not_lt hround)
    · exact heq
    · exact absurd hgt (hround.not_lt h)
  · rintro rfl
    exact hround

end MediaQuery.Binary64
