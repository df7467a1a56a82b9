import MediaQuery.Number.Binary64
import Mathlib.Data.Nat.Log
import Mathlib.Tactic.Ring

/-!
# Where rounding leaves the finite numbers

A quotient is rounded to a finite number unless it is at least `2 ^ 1024 - 2 ^ 970`, which lies half
a spacing below `2 ^ 1024`: `ofQuotient?_eq_none_iff`. The spacing is known there, so the question
is whether one integer quotient is rounded up (`roundQuotient_lt_iff`).
-/

namespace MediaQuery

theorem pow2_succ (n : Nat) : pow2 (n + 1) = 2 * pow2 n := by
  rw [pow2_add, Nat.mul_comm]
  rfl

namespace Binary64

variable {n d k m : Nat}

/-- A quotient is rounded to less than an even `k` iff it lies below `k` by more than a half. -/
theorem roundQuotient_lt_iff (hd : 0 < d) (hk : k % 2 = 0) (hk0 : 0 < k) :
    roundQuotient n d < k ↔ 2 * n + d < 2 * (k * d) := by
  have hn : n = d * (n / d) + n % d := (Nat.div_add_mod n d).symm
  have hr : n % d < d := Nat.mod_lt n hd
  unfold roundQuotient
  dsimp only
  generalize n / d = q at *
  generalize n % d = r at *
  subst hn
  rcases Nat.lt_trichotomy (q + 1) k with hlt | heq | hgt
  · -- the whole quotient is less than `k - 1`, so rounding up does not reach `k`
    have hmul : d * (q + 2) ≤ k * d := by
      rw [Nat.mul_comm k d]
      exact Nat.mul_le_mul_left d (by omega)
    have hexpand : d * (q + 2) = d * q + 2 * d := by ring
    refine iff_of_true ?_ (by omega)
    split_ifs <;> omega
  · subst heq
    have hexpand : (q + 1) * d = d * q + d := by ring
    rw [hexpand]
    split_ifs with h <;> omega
  · have hmul : k * d ≤ d * q := by
      rw [Nat.mul_comm k d]
      exact Nat.mul_le_mul_left d (by omega)
    refine iff_of_false ?_ (by omega)
    split_ifs <;> omega

theorem spacing_eq {units : Nat} (hlow : pow2 (m + 52) ≤ units) (hhigh : units < pow2 (m + 53)) :
    spacing units = m := by
  have h0 : units ≠ 0 := by
    have := pow2_pos (m + 52)
    omega
  have hlog : units.log2 = m + 52 := by
    rw [Nat.log2_eq_iff h0]
    exact ⟨hlow, hhigh⟩
  rw [spacing, hlog]
  omega

theorem spacing_mono {a b : Nat} (h : a ≤ b) : spacing a ≤ spacing b := by
  unfold spacing
  rw [Nat.log2_eq_log_two, Nat.log2_eq_log_two]
  have := Nat.log_mono_right (b := 2) h
  omega

theorem le_roundQuotient (n d : Nat) : n / d ≤ roundQuotient n d := by
  unfold roundQuotient
  dsimp only
  split_ifs <;> omega

/-- Rounding a quotient goes up by at most one spacing. -/
theorem roundUnits_le (n d : Nat) : roundUnits n d ≤ n / d + pow2 (spacing (n / d)) := by
  rw [roundUnits]
  generalize pow2 (spacing (n / d)) = step
  have hround := roundQuotient_le n (d * step)
  rw [← Nat.div_div_eq_div_mul] at hround
  calc roundQuotient n (d * step) * step
      ≤ (n / d / step + 1) * step := Nat.mul_le_mul_right step hround
    _ = n / d / step * step + step := by ring
    _ ≤ n / d + step := Nat.add_le_add_right (Nat.div_mul_le_self _ _) step

/-- Rounding a quotient of at least 53 digits does not go below its leading digit. -/
theorem le_roundUnits (h : pow2 52 ≤ n / d) :
    pow2 (spacing (n / d) + 52) ≤ roundUnits n d := by
  have h0 : n / d ≠ 0 := by
    have := pow2_pos 52
    omega
  have hlog : spacing (n / d) + 52 = (n / d).log2 := by
    have := (Nat.le_log2 h0).2 h
    unfold spacing
    omega
  have hself : pow2 (n / d).log2 ≤ n / d := Nat.log2_self_le h0
  rw [← hlog, pow2_add, Nat.mul_comm] at hself
  rw [roundUnits]
  have hround := le_roundQuotient n (d * pow2 (spacing (n / d)))
  rw [← Nat.div_div_eq_div_mul] at hround
  have hdigits : pow2 52 ≤ n / d / pow2 (spacing (n / d)) :=
    (Nat.le_div_iff_mul_le (pow2_pos _)).2 hself
  calc pow2 (spacing (n / d) + 52)
      = pow2 52 * pow2 (spacing (n / d)) := by rw [pow2_add, Nat.mul_comm]
    _ ≤ _ := Nat.mul_le_mul_right _ (hdigits.trans hround)

/-- Where a quotient is rounded to less than a power of two: half a spacing below the power. -/
theorem roundUnits_lt_iff (hd : 0 < d) :
    roundUnits n d < pow2 (m + 53) ↔ 2 * n + d * pow2 m < 2 * (pow2 (m + 53) * d) := by
  have hpow : pow2 (m + 53) = 2 * pow2 (m + 52) := pow2_succ (m + 52)
  have hstep : pow2 m ≤ pow2 (m + 52) := pow2_le_pow2 (by omega)
  rcases Nat.lt_or_ge (n / d) (pow2 (m + 52)) with hlow | hlow
  · -- below the power by a digit: neither side is reached by rounding
    have hspacing : spacing (n / d) ≤ m := by
      have hm : spacing (pow2 (m + 52)) = m := spacing_eq le_rfl (pow2_lt_pow2 (by omega))
      exact hm ▸ spacing_mono hlow.le
    have hround := roundUnits_le n d
    have hpos : pow2 (spacing (n / d)) ≤ pow2 m := pow2_le_pow2 hspacing
    have hn : n < pow2 (m + 52) * d := (Nat.div_lt_iff_lt_mul hd).1 hlow
    have hd' : d * pow2 m ≤ pow2 (m + 52) * d := by
      rw [Nat.mul_comm]
      exact Nat.mul_le_mul_right d hstep
    have hexpand : 2 * pow2 (m + 52) * d = 2 * (pow2 (m + 52) * d) := by ring
    refine iff_of_true (by omega) ?_
    rw [hpow, hexpand]
    omega
  rcases Nat.lt_or_ge (n / d) (pow2 (m + 53)) with hhigh | hhigh
  · -- just below the power: its spacing is known
    have hspacing := spacing_eq hlow hhigh
    have hsplit : pow2 (m + 53) = pow2 53 * pow2 m := by rw [pow2_add, Nat.mul_comm]
    rw [roundUnits, hspacing, hsplit, Nat.mul_lt_mul_right (pow2_pos m),
      roundQuotient_lt_iff (Nat.mul_pos hd (pow2_pos m)) (by decide) (by decide)]
    have hexpand : pow2 53 * (d * pow2 m) = pow2 53 * pow2 m * d := by ring
    rw [hexpand]
  · have h52 : pow2 52 ≤ n / d :=
      le_trans (pow2_le_pow2 (by omega)) hhigh
    have hspacing : m + 1 ≤ spacing (n / d) := by
      have hm : spacing (pow2 (m + 1 + 52)) = m + 1 :=
        spacing_eq le_rfl (pow2_lt_pow2 (by omega))
      exact hm ▸ spacing_mono hhigh
    have hround := le_roundUnits h52
    have hle : pow2 (m + 53) ≤ pow2 (spacing (n / d) + 52) := pow2_le_pow2 (by omega)
    have hn : pow2 (m + 53) * d ≤ n := (Nat.le_div_iff_mul_le hd).1 hhigh
    refine iff_of_false (by omega) (by omega)

/-- The least natural number that is rounded to no finite number. -/
def overflow : Nat := pow2 1024 - pow2 970

/-- Where a whole count of the number one, divided, is rounded to a finite number. -/
theorem roundUnits_mul_one_lt_iff (hd : 0 < d) :
    roundUnits (n * one) d < unitsLimit ↔ n < overflow * d := by
  have hone : one = pow2 1074 := rfl
  have hround := roundUnits_lt_iff (n := n * one) (d := d) (m := 2045) hd
  have h1 : pow2 (2045 + 53) = pow2 1074 * pow2 1024 := by rw [← pow2_add]
  have h2 : pow2 2045 = pow2 1074 * (2 * pow2 970) := by
    rw [← pow2_succ, ← pow2_add]
  have h3 : 2 * (n * pow2 1074) + d * (pow2 1074 * (2 * pow2 970)) =
      2 * pow2 1074 * (n + pow2 970 * d) := by ring
  have h4 : 2 * (pow2 1074 * pow2 1024 * d) = 2 * pow2 1074 * (pow2 1024 * d) := by ring
  have h5 : overflow * d + pow2 970 * d = pow2 1024 * d := by
    rw [← Nat.add_mul, overflow, Nat.sub_add_cancel]
    exact pow2_le_pow2 (by omega)
  rw [show unitsLimit = pow2 (2045 + 53) from rfl, hround, hone, h1, h2, h3, h4,
    Nat.mul_lt_mul_left (Nat.mul_pos (by decide) (pow2_pos 1074))]
  omega

/-- **A quotient has no number** iff it is at least the least number that overflows. -/
theorem ofQuotient?_eq_none_iff (hd : 0 < d) : ofQuotient? n d = none ↔ overflow * d ≤ n := by
  rw [ofQuotient?, Option.map_eq_none_iff, Units.round?_eq_none_iff, ← not_lt,
    roundUnits_mul_one_lt_iff hd, not_lt]

end Binary64

end MediaQuery
