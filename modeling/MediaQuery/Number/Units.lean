/-!
# Units of numbers

The magnitudes of finite binary64 numbers. A magnitude is a count of units of `2 ^ -1074`, the
spacing of the smallest numbers, that has no more than 53 binary digits in front of its trailing
zeros.

* `roundUnits` is rounding to such a count, to nearest with ties to even, and
  `exactUnits_roundUnits` says that it gives such a count;
* `Units` are the counts below `2 ^ 1024`, and `Units.round?` rounds to them.
-/

namespace MediaQuery

/-- A power of two. -/
def pow2 (n : Nat) : Nat := Nat.pow 2 n

theorem pow2_pos (n : Nat) : 0 < pow2 n := Nat.two_pow_pos n

theorem pow2_add (m n : Nat) : pow2 (m + n) = pow2 m * pow2 n := Nat.pow_add 2 m n

theorem pow2_le_pow2 {m n : Nat} (h : m ≤ n) : pow2 m ≤ pow2 n := Nat.pow_le_pow_right (by decide) h

theorem pow2_lt_pow2 {m n : Nat} (h : m < n) : pow2 m < pow2 n := Nat.pow_lt_pow_right (by decide) h

theorem pow2_dvd_pow2 {m n : Nat} (h : m ≤ n) : pow2 m ∣ pow2 n := Nat.pow_dvd_pow 2 h

namespace Binary64

/-- Units in the number one. -/
def one : Nat := pow2 1074

/-- Units in `2 ^ 1024`, the least power of two that is no longer a finite number. -/
def unitsLimit : Nat := pow2 2098

/-! ### Rounding -/

/-- The integer nearest to `n / d`; a half goes to the even neighbour. -/
def roundQuotient (n d : Nat) : Nat :=
  let q := n / d
  let r := n % d
  if 2 * r < d ∨ (2 * r = d ∧ q % 2 = 0) then q else q + 1

theorem roundQuotient_le (n d : Nat) : roundQuotient n d ≤ n / d + 1 := by
  unfold roundQuotient
  dsimp only
  split <;> omega

/-- The number of binary digits that `units` has beyond 53: results are multiples of `2` to it. -/
def spacing (units : Nat) : Nat := units.log2 + 1 - 53

theorem lt_pow2_spacing (u : Nat) : u < pow2 (spacing u + 53) := by
  have hlog : u < pow2 (u.log2 + 1) := Nat.lt_log2_self
  have hle : pow2 (u.log2 + 1) ≤ pow2 (spacing u + 53) := pow2_le_pow2 (by unfold spacing; omega)
  omega

theorem spacing_le_of_lt {u m : Nat} (h : u < pow2 (m + 53)) : spacing u ≤ m := by
  rcases Nat.eq_zero_or_pos u with rfl | hu
  · have hzero : spacing 0 = 0 := by decide
    omega
  · have hlog : u.log2 < m + 53 := (Nat.log2_lt (by omega)).2 h
    unfold spacing
    omega

/-- The representable count of units nearest to `n / d`, ties to even. -/
def roundUnits (n d : Nat) : Nat :=
  let step := pow2 (spacing (n / d))
  roundQuotient n (d * step) * step

/-! ### Exact counts -/

/-- A count of units that is a multiple of its own spacing. -/
def ExactUnits (units : Nat) : Prop := pow2 (spacing units) ∣ units

/-- A multiple of a power of two with at most 53 digits is exact. -/
theorem exactUnits_mul {q m : Nat} (hq : q ≤ pow2 53) : ExactUnits (q * pow2 m) := by
  rcases Nat.lt_or_ge q (pow2 53) with hlt | hge
  · have hspacing : spacing (q * pow2 m) ≤ m := by
      refine spacing_le_of_lt ?_
      rw [Nat.add_comm, pow2_add]
      exact Nat.mul_lt_mul_of_pos_right hlt (pow2_pos m)
    exact Nat.dvd_trans (pow2_dvd_pow2 hspacing) (Nat.dvd_mul_left _ q)
  · -- one digit more, and all of them zero but the first
    obtain rfl : q = pow2 53 := by omega
    have hspacing : spacing (pow2 53 * pow2 m) ≤ 53 + m := by
      rw [← pow2_add]
      exact spacing_le_of_lt (pow2_lt_pow2 (by omega))
    rw [ExactUnits, ← pow2_add] at *
    exact pow2_dvd_pow2 hspacing

/-- **Rounding leaves exact units.** -/
theorem exactUnits_roundUnits (n d : Nat) : ExactUnits (roundUnits n d) := by
  refine exactUnits_mul ?_
  have hround := roundQuotient_le n (d * pow2 (spacing (n / d)))
  rw [← Nat.div_div_eq_div_mul] at hround
  have hlt : n / d / pow2 (spacing (n / d)) < pow2 53 := by
    rw [Nat.div_lt_iff_lt_mul (pow2_pos _), ← pow2_add, Nat.add_comm]
    exact lt_pow2_spacing (n / d)
  omega

/-- The magnitude of a finite number: an exact count of units below the limit. -/
@[ext]
structure Units where
  count : Nat
  exact : ExactUnits count
  lt_limit : count < unitsLimit
  deriving DecidableEq, Repr

namespace Units

/-- No units. -/
def zero : Units := ⟨0, Nat.dvd_zero _, pow2_pos 2098⟩

/-- The units nearest to `n / d`, ties to even; none from `2 ^ 1024` on. -/
def round? (n d : Nat) : Option Units :=
  let count := roundUnits n d
  if h : count < unitsLimit then some ⟨count, exactUnits_roundUnits n d, h⟩ else none

@[simp] theorem zero_count : zero.count = 0 := rfl

theorem round?_eq_some_iff {n d : Nat} {u : Units} :
    round? n d = some u ↔ roundUnits n d = u.count := by
  unfold round?
  dsimp only
  split
  · rename_i h
    rw [Option.some.injEq]
    exact ⟨fun heq => heq ▸ rfl, fun heq => Units.ext heq⟩
  · rename_i h
    exact ⟨nofun, fun heq => absurd (heq ▸ u.lt_limit) h⟩

theorem round?_eq_none_iff {n d : Nat} : round? n d = none ↔ unitsLimit ≤ roundUnits n d := by
  unfold round?
  dsimp only
  split
  · rename_i h
    exact ⟨nofun, fun hle => absurd h (Nat.not_lt.2 hle)⟩
  · rename_i h
    exact ⟨fun _ => Nat.not_lt.1 h, fun _ => rfl⟩

end Units

end Binary64

end MediaQuery
