import MediaQuery.Proofs.Measure.Unit
import MediaQuery.Proofs.Number.Nearest

/-!
# Ratios as quotients

The number of a ratio is the quotient of its sides, correctly rounded whatever the size of the sides
(`quotient_eq`), so that both sides can be multiplied by a number. White space around the sides does
not count, and neither do tabs that are expanded or what is trimmed off (`RatioOf.expandTabs`,
`RatioOf.trim`).
-/

namespace MediaQuery.Measure

open Text Binary64

variable {cs left right : List Char}

/-! ### Quotients of sides -/

/-- A quotient, or the error of one that overflows. -/
def orTooLarge (x : Option Binary64) : Except MeasureError Binary64 :=
  x.elim (.error .quotientTooLarge) .ok

/-- A side that is not too long. -/
def SideOf (ds : List Char) (n : Nat) : Prop :=
  ds.length ≤ Numeral.digitLimit ∧ Numeral.digitsValue ds = n

theorem SideOf.sideValue {ds : List Char} {n : Nat} (h : SideOf ds n) : sideValue ds = .ok n := by
  rw [Measure.sideValue, if_neg (not_lt.2 h.1), h.2]

/-- **A quotient of sides is rounded once**, from the sides as they are. -/
theorem quotient_eq {n d : Nat} (hleft : SideOf left n) (hright : SideOf right d) (hd : 0 < d) :
    quotient left right = orTooLarge (ofQuotient? n d) := by
  have hn := hleft.sideValue
  have hd' := hright.sideValue
  unfold quotient
  rw [hn]
  dsimp only
  rw [hd']
  dsimp only
  rw [if_neg hd.ne']
  cases ofQuotient? n d <;> rfl

/-- Rounding sees the value of a quotient only. -/
theorem roundUnits_mul_left {n d k : Nat} (hk : 0 < k) :
    roundUnits (k * n) (k * d) = roundUnits n d := by
  rw [roundUnits, roundUnits, Nat.mul_div_mul_left n d hk, Nat.mul_assoc, Nat.mul_comm k n,
    Nat.mul_comm k, roundQuotient_mul_right hk]

theorem ofQuotient?_mul_left {n d k : Nat} (hk : 0 < k) :
    ofQuotient? (k * n) (k * d) = ofQuotient? n d := by
  simp only [ofQuotient?, Units.round?, Nat.mul_assoc, roundUnits_mul_left hk]

/-- The number of a quotient, or the error of one that overflows, by the count of its units. -/
theorem orTooLarge_ofQuotient? {n d units : Nat} (h : roundUnits (n * one) d = units)
    (hexact : ExactUnits units) :
    orTooLarge (ofQuotient? n d) =
      if hlimit : units < unitsLimit then .ok (.finite false ⟨units, hexact, hlimit⟩)
      else .error .quotientTooLarge := by
  rw [ofQuotient?]
  split_ifs with hlimit
  · have hround : Units.round? (n * one) d = some ⟨units, hexact, hlimit⟩ :=
      Units.round?_eq_some_iff.2 h
    rw [hround]
    rfl
  · rw [Units.round?_eq_none_iff.2 (h ▸ not_lt.1 hlimit)]
    rfl

/-! ### Texts of ratios -/

theorem RatioOf.mem (h : RatioOf cs left right) {e : Char} (he : e ∈ cs) :
    isBlank e ∨ isDigit e ∨ e = '/' := by
  obtain ⟨a, b, c, d, ha, hb, hc, hd, hleft, hright, rfl⟩ := h
  simp only [List.mem_append, List.mem_cons] at he
  rcases he with he | he | he | rfl | he | he | he
  · exact .inl (ha e he)
  · exact .inr (.inl (hleft.2 e he))
  · exact .inl (hb e he)
  · exact .inr (.inr rfl)
  · exact .inl (hc e he)
  · exact .inr (.inl (hright.2 e he))
  · exact .inl (hd e he)

/-- A ratio is the same in lower case. -/
theorem RatioOf.lower_eq (h : RatioOf cs left right) : lower cs = cs := by
  have hself : cs.map Char.toLower = cs.map id := by
    refine List.map_congr_left fun e he => ?_
    rcases h.mem he with hblank | hdigit | rfl
    · exact toLower_eq_self (by decide) hblank
    · exact toLower_eq_self (by decide) hdigit
    · rfl
  rw [lower_of_letters fun e he => ?_, hself, List.map_id]
  rcases h.mem he with hblank | hdigit | rfl
  · exact lowerChar_of_isBlank hblank
  · exact lowerChar_of_isDigit hdigit
  · exact lowerChar_of_ascii (by decide)

theorem decimal_ofString {text : String} (h : RatioOf text.toList left right) :
    decimal (.ofString text) = quotient left right :=
  decimal_of_ratioOf (by rwa [h.lower_eq])

/-! ### Space around the sides -/

theorem Blanks.expandTabs {b : List Char} (h : Blanks b) (column : Nat) :
    Blanks (Query.expandTabs column b) := by
  intro c hc
  rcases Query.mem_expandTabs hc with rfl | hc
  · decide
  · exact h c hc

theorem Digits.tab_notMem {ds : List Char} (h : Digits ds) : '\t' ∉ ds :=
  fun hm => absurd (h.2 _ hm) (by decide)

/-- **Expanding tabs keeps the sides of a ratio.** -/
theorem RatioOf.expandTabs (h : RatioOf cs left right) (column : Nat) :
    RatioOf (Query.expandTabs column cs) left right := by
  obtain ⟨a, b, c, d, ha, hb, hc, hd, hleft, hright, rfl⟩ := h
  obtain ⟨col₁, h₁⟩ := Query.exists_expandTabs_append column a
    (left ++ (b ++ '/' :: (c ++ (right ++ d))))
  obtain ⟨col₂, h₂⟩ := Query.exists_expandTabs_append col₁ left (b ++ '/' :: (c ++ (right ++ d)))
  obtain ⟨col₃, h₃⟩ := Query.exists_expandTabs_append col₂ b ('/' :: (c ++ (right ++ d)))
  obtain ⟨col₄, h₄⟩ := Query.exists_expandTabs_append (col₃ + 1) c (right ++ d)
  obtain ⟨col₅, h₅⟩ := Query.exists_expandTabs_append col₄ right d
  have hslash : Query.expandTabs col₃ ('/' :: (c ++ (right ++ d))) =
      '/' :: Query.expandTabs (col₃ + 1) (c ++ (right ++ d)) := rfl
  rw [h₁, h₂, h₃, hslash, h₄, h₅, Query.expandTabs_eq_self hleft.tab_notMem,
    Query.expandTabs_eq_self hright.tab_notMem]
  exact ⟨_, _, _, _, ha.expandTabs _, hb.expandTabs _, hc.expandTabs _, hd.expandTabs _, hleft,
    hright, rfl⟩

theorem Digits.getLast?_append {ds : List Char} (h : Digits ds) (pre : List Char) :
    ∀ c ∈ (pre ++ ds).getLast?, ¬ isBlank c := by
  intro c hc hblank
  rw [List.getLast?_append_of_ne_nil pre h.1] at hc
  exact not_isDigit_of_isBlank hblank (h.2 c (List.mem_of_getLast? hc))

/-- **Trimming keeps the sides of a ratio.** -/
theorem RatioOf.trim (h : RatioOf cs left right) : RatioOf (trim cs) left right := by
  obtain ⟨a, b, c, d, ha, hb, hc, hd, hleft, hright, rfl⟩ := h
  refine ⟨[], b, c, [], nofun, hb, hc, nofun, hleft, hright, ?_⟩
  have hsplit : left ++ (b ++ '/' :: (c ++ (right ++ d))) =
      left ++ (b ++ '/' :: (c ++ right)) ++ d := by simp
  have hlast : left ++ (b ++ '/' :: (c ++ right)) = left ++ (b ++ '/' :: c) ++ right := by simp
  rw [trim_append_left ha, hsplit, trim_append_right hd, trim_eq_self hleft.head?
    (by rw [hlast]; exact hright.getLast?_append _)]
  simp

end MediaQuery.Measure
