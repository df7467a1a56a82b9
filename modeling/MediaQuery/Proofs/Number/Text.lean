import MediaQuery.Number.Numeral
import MediaQuery.Proofs.Text.Parts
import MediaQuery.Value

/-!
# Numbers as text

The digits of a natural number (`digitsValue_toDigits`), and how the texts of numbers end: that of
an integer and that of a finite number with a digit, in every layout (`Layout.write`), so that no
letters stand at the end of them.
-/

namespace MediaQuery

open Text

/-! ### Digits -/

theorem digitValue?_of_isDigit {c : Char} (h : c.isDigit) :
    digitValue? c = some (c.toNat - 48) := by
  have hall : ∀ n ∈ List.range' 48 10,
      digitValue? (Char.ofNat n) = some ((Char.ofNat n).toNat - 48) := by decide
  refine forall_char_mem (P := fun c => digitValue? c = some (c.toNat - 48)) hall ?_
  simp only [Char.isDigit, Bool.and_eq_true, decide_eq_true_eq] at h
  have hlow : 48 ≤ c.toNat := h.1
  have hhigh : c.toNat ≤ 57 := h.2
  rw [List.mem_range'_1]
  omega

theorem isDigit_of_mem_toDigits {n : Nat} {c : Char} (h : c ∈ Nat.toDigits 10 n) :
    Text.isDigit c := by
  rw [Text.isDigit, digitValue?_of_isDigit (Nat.isDigit_of_mem_toDigits (by decide) (by decide) h)]
  rfl

/-- **The digits of a natural number** spell it. -/
theorem digitsValue_toDigits (n : Nat) : Numeral.digitsValue (Nat.toDigits 10 n) = n := by
  have hfold : ∀ (ds : List Char) (start : Nat), (∀ c ∈ ds, c.isDigit) →
      ds.foldl (fun n c => 10 * n + (digitValue? c).getD 0) start =
        Nat.ofDigitChars 10 ds start := by
    intro ds
    induction ds with
    | nil => exact fun start _ => rfl
    | cons d ds ih =>
      intro start h
      obtain ⟨hd, hds⟩ := List.forall_mem_cons.1 h
      rw [List.foldl_cons, ih _ hds, digitValue?_of_isDigit hd, Nat.ofDigitChars_cons]
      rfl
  have hdigits : ∀ c ∈ Nat.toDigits 10 n, c.isDigit := fun c hc =>
    Nat.isDigit_of_mem_toDigits (by decide) (by decide) hc
  rw [Numeral.digitsValue, hfold _ 0 hdigits, Nat.ofDigitChars_ten_toDigits]

/-- An integer as text: a sign if it is negative, and the digits of its magnitude. -/
theorem toList_toString_int (i : Int) :
    (toString i).toList = (if i < 0 then ['-'] else []) ++ Nat.toDigits 10 i.natAbs := by
  rw [Int.toString_eq_repr, Int.repr_eq_if]
  by_cases h : 0 ≤ i
  · rw [if_pos h, if_neg (by omega), Nat.toList_repr, show i.toNat = i.natAbs by omega]
    rfl
  · rw [if_neg h, if_pos (by omega), String.toList_append, Nat.toList_repr,
      show (-i).toNat = i.natAbs by omega]
    rfl

theorem mem_toString_int {i : Int} {c : Char} (h : c ∈ (toString i).toList) :
    Text.isDigit c ∨ c = '-' := by
  rw [toList_toString_int, List.mem_append] at h
  rcases h with h | h
  · split_ifs at h
    · exact .inr (by simpa using h)
    · exact absurd h List.not_mem_nil
  · exact .inl (isDigit_of_mem_toDigits h)

/-! ### The end of a number -/

/-- The last character is a digit. -/
def EndsInDigit (cs : List Char) : Prop := ∃ c, cs.getLast? = some c ∧ Text.isDigit c

variable {cs ds : List Char}

theorem EndsInDigit.append_left (h : EndsInDigit ds) (cs : List Char) : EndsInDigit (cs ++ ds) := by
  obtain ⟨c, hc, hdigit⟩ := h
  exact ⟨c, by rw [List.getLast?_append, hc]; rfl, hdigit⟩

/-- Digits, at least one. -/
theorem endsInDigit_of_digits (hne : ds ≠ []) (h : ∀ c ∈ ds, Text.isDigit c) : EndsInDigit ds :=
  ⟨ds.getLast hne, List.getLast?_eq_some_getLast hne, h _ (List.getLast_mem hne)⟩

theorem endsInDigit_toDigits (n : Nat) : EndsInDigit (Nat.toDigits 10 n) :=
  endsInDigit_of_digits Nat.toDigits_ne_nil fun _ => isDigit_of_mem_toDigits

theorem endsInDigit_toString_int (i : Int) : EndsInDigit (toString i).toList := by
  rw [toList_toString_int]
  exact (endsInDigit_toDigits _).append_left _

theorem Layout.endsInDigit_exponentText (layout : Layout) (e : Int) :
    EndsInDigit (layout.exponentText e).toList := by
  unfold exponentText
  rw [String.toList_append, Nat.toString_eq_repr, Nat.toList_repr]
  exact (endsInDigit_toDigits _).append_left _

/-- **A written decimal ends with a digit**, in every layout. -/
theorem Layout.endsInDigit_write (layout : Layout) (d : Decimal) :
    EndsInDigit (layout.write d).toList := by
  unfold write
  dsimp only
  split
  · split
    · rw [String.toList_append]
      refine EndsInDigit.append_left ?_ _
      rw [String.toList_ofList]
      exact (endsInDigit_toDigits _).append_left _
    · rw [String.toList_append]
      refine EndsInDigit.append_left ?_ _
      split
      · exact ⟨'0', rfl, by decide⟩
      · rename_i hfraction
        rw [String.toList_ofList]
        refine endsInDigit_of_digits (by simpa using hfraction) fun c hc => ?_
        exact isDigit_of_mem_toDigits (List.mem_of_mem_drop hc)
  · rw [String.toList_append]
    exact (layout.endsInDigit_exponentText _).append_left _

/-- **A finite number ends with a digit.** -/
theorem Binary64.endsInDigit_text (negative : Bool) (units : Units) :
    EndsInDigit (Binary64.finite negative units).text.toList := by
  unfold text
  dsimp only
  rw [String.toList_append]
  refine EndsInDigit.append_left ?_ _
  split_ifs with hzero
  · exact ⟨'0', rfl, by decide⟩
  · exact Layout.standard.endsInDigit_write _

end MediaQuery
