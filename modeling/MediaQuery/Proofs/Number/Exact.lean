import MediaQuery.Proofs.Number.Rounding

/-!
# Numbers that rounding keeps

Rounding does not change an exact count of units (`ExactUnits.roundUnits_eq`), so that it finds the
units of a finite number again (`Units.round?_mul`), and every number is its own product with one.
-/

namespace MediaQuery.Binary64

variable {n d k u : Nat}

/-! ### Rounding exact units -/

theorem roundQuotient_mul_right (hk : 0 < k) :
    roundQuotient (n * k) (d * k) = roundQuotient n d := by
  have hr : 2 * (n % d * k) = 2 * (n % d) * k := by ring
  unfold roundQuotient
  simp only [Nat.mul_div_mul_right n d hk, Nat.mul_mod_mul_right, hr, Nat.mul_lt_mul_right hk,
    Nat.mul_right_cancel_iff hk]

theorem roundQuotient_of_dvd (hd : 0 < d) (h : d ∣ n) : roundQuotient n d = n / d := by
  unfold roundQuotient
  dsimp only
  rw [Nat.mod_eq_zero_of_dvd h, if_pos (.inl (by omega))]

/-- **Exact units stay as they are**, also when they are given as a quotient. -/
theorem ExactUnits.roundUnits_eq (h : ExactUnits u) (hd : 0 < d) : roundUnits (u * d) d = u := by
  rw [roundUnits, Nat.mul_div_cancel u hd, Nat.mul_comm d, roundQuotient_mul_right hd,
    roundQuotient_of_dvd (pow2_pos _) h]
  exact Nat.div_mul_cancel h

/-! ### Rounding units of numbers -/

/-- **The units of a number** are those that their count is rounded to. -/
theorem Units.round?_mul (units : Units) (hd : 0 < d) :
    Units.round? (units.count * d) d = some units :=
  Units.round?_eq_some_iff.2 (units.exact.roundUnits_eq hd)

theorem Units.round?_count (units : Units) : Units.round? units.count 1 = some units := by
  simpa using units.round?_mul Nat.one_pos

theorem nearest_of_round? {units : Units} (h : Units.round? n d = some units) (negative : Bool) :
    nearest negative n d = .finite negative units := by
  rw [nearest, h, Option.map_some, Option.getD_some]

theorem one_pos : 0 < one := pow2_pos 1074

theorem mul_one_lt_unitsLimit {k : Nat} (h : k ≤ pow2 53) : k * one < unitsLimit := by
  have hlimit : unitsLimit = pow2 1024 * one := by rw [unitsLimit, one, ← pow2_add]
  rw [hlimit]
  exact Nat.mul_lt_mul_of_pos_right (h.trans_lt (pow2_lt_pow2 (by omega))) one_pos

/-- The units of an integer of few enough digits. -/
def Units.ofNat (k : Nat) (h : k ≤ pow2 53) : Units :=
  ⟨k * one, exactUnits_mul h, mul_one_lt_unitsLimit h⟩

@[simp] theorem Units.ofNat_count (k : Nat) (h : k ≤ pow2 53) : (ofNat k h).count = k * one := rfl

/-- **A number times one** is the number. -/
theorem mul_one (x : Binary64) : x.mul (.finite false (.ofNat 1 (pow2_pos 53))) = x := by
  have hcount : (Units.ofNat 1 (pow2_pos 53)).count = one := by
    rw [Units.ofNat_count, Nat.one_mul]
  cases x with
  | nan => rfl
  | infinity negative => rw [mul, hcount, if_neg one_pos.ne', Bool.bne_false]
  | finite negative units =>
    rw [mul, hcount, nearest_of_round? (units.round?_mul one_pos), Bool.bne_false]

end MediaQuery.Binary64
