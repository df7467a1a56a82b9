import MediaQuery.Proofs.Text.Parts
import MediaQuery.Text.Casing

/-!
# ASCII letters in either case

Texts that differ in the case of ASCII letters only (`SameLetters`) are equal once those letters
are in lower case, so a function ignores letter case when putting letters in lower case before it
changes nothing, or does so after it. `apply_toLower` reduces that for a class of characters to the
26 capital letters.
-/

namespace MediaQuery.Text

variable {cs ds : List Char} {p : Char → Bool}

/-- The same text up to the case of ASCII letters. -/
def SameLetters (cs ds : List Char) : Prop := cs.map Char.toLower = ds.map Char.toLower

/-! ### Classes of characters -/

/-- Whatever holds of all capital letters and all characters that are their own lower-case form. -/
theorem toLower_induction {P : Char → Prop} (hself : ∀ c : Char, c.toLower = c → P c)
    (hcapital : ∀ n ∈ List.range' 65 26, P (Char.ofNat n)) (c : Char) : P c := by
  by_cases hc : c.val ≥ 'A'.val ∧ c.val ≤ 'Z'.val
  · have hlow : 65 ≤ c.toNat := hc.1
    have hhigh : c.toNat ≤ 90 := hc.2
    refine forall_char_mem hcapital ?_
    rw [List.mem_range'_1]
    omega
  · exact hself c (dif_neg hc)

/-- A function of characters ignores letter case if it does so on capital letters. -/
theorem apply_toLower {α : Type} {f : Char → α}
    (h : ∀ n ∈ List.range' 65 26, f (Char.ofNat n).toLower = f (Char.ofNat n)) (c : Char) :
    f c.toLower = f c :=
  toLower_induction (P := fun c => f c.toLower = f c) (fun _ hc => congrArg f hc) h c

theorem toLower_toLower (c : Char) : c.toLower.toLower = c.toLower :=
  apply_toLower (f := Char.toLower) (by decide) c

/-- A character that is no letter is the lower-case form of itself only. -/
theorem toLower_eq_iff_of_range {d : Char}
    (h : ∀ n ∈ List.range' 65 26, decide ((Char.ofNat n).toLower = d) = decide (Char.ofNat n = d))
    {c : Char} : c.toLower = d ↔ c = d := by
  have hd := apply_toLower (f := fun c => decide (c = d)) h c
  simpa using hd

theorem isBlank_toLower (c : Char) : isBlank c.toLower = isBlank c :=
  apply_toLower (by decide) c

/-- No range of characters that casing looks past has an ASCII letter in it. -/
theorem caseIgnorableRanges_noLetter : (caseIgnorableRanges.all fun range =>
    Nat.blt range.2 65 || Nat.blt 90 range.1 && Nat.blt range.2 97 || Nat.blt 122 range.1) =
      true := by
  decide +kernel

theorem isCaseIgnorable_toLower (c : Char) : isCaseIgnorable c.toLower = isCaseIgnorable c := by
  have hletter : ∀ c : Char, c.toNat ∈ List.range' 65 26 ++ List.range' 97 26 →
      isCaseIgnorable c = false := by
    intro c hc
    simp only [List.mem_append, List.mem_range'_1] at hc
    rw [isCaseIgnorable, inRanges, List.any_eq_false]
    intro range hrange
    have hfar := List.all_eq_true.1 caseIgnorableRanges_noLetter range hrange
    simp only [Bool.or_eq_true, Bool.and_eq_true, Nat.blt_eq] at hfar
    simp only [Bool.and_eq_true, decide_eq_true_eq]
    omega
  have hcodes : ∀ n ∈ List.range' 65 26, (Char.ofNat n).toNat ∈ List.range' 65 26 ∧
      (Char.ofNat n).toLower.toNat ∈ List.range' 97 26 := by decide
  refine apply_toLower (fun n hn => ?_) c
  obtain ⟨hcapital, hsmall⟩ := hcodes n hn
  rw [hletter _ (List.mem_append_left _ hcapital), hletter _ (List.mem_append_right _ hsmall)]

theorem isCased_toLower (c : Char) : isCased c.toLower = isCased c :=
  apply_toLower (by decide) c

theorem lowerChar_toLower (c : Char) : lowerChar c.toLower = lowerChar c :=
  apply_toLower (by decide) c

theorem eq_capitalSigma_toLower (c : Char) : c.toLower = capitalSigma ↔ c = capitalSigma :=
  toLower_eq_iff_of_range (by decide)

/-! ### Cutting and trimming -/

section Cut

variable (h : ∀ c : Char, p c.toLower = p c)

include h

theorem takeWhile_toLower (cs : List Char) :
    (cs.map Char.toLower).takeWhile p = (cs.takeWhile p).map Char.toLower := by
  rw [List.takeWhile_map, show p ∘ Char.toLower = p from funext h]

theorem dropWhile_toLower (cs : List Char) :
    (cs.map Char.toLower).dropWhile p = (cs.dropWhile p).map Char.toLower := by
  rw [List.dropWhile_map, show p ∘ Char.toLower = p from funext h]

theorem all_toLower (cs : List Char) : (cs.map Char.toLower).all p = cs.all p := by
  rw [List.all_map, show p ∘ Char.toLower = p from funext h]

end Cut

theorem trim_toLower (cs : List Char) :
    trim (cs.map Char.toLower) = (trim cs).map Char.toLower := by
  unfold trim trimRight trimLeft
  rw [dropWhile_toLower isBlank_toLower, ← List.map_reverse, dropWhile_toLower isBlank_toLower,
    List.map_reverse]

theorem splitOn_toLower {separator : Char} (h : ∀ c : Char, c.toLower = separator ↔ c = separator)
    (cs : List Char) :
    splitOn separator (cs.map Char.toLower) =
      (splitOn separator cs).map (List.map Char.toLower) := by
  induction cs with
  | nil => rfl
  | cons c cs ih =>
    rw [List.map_cons, splitOn, splitOn, ih]
    by_cases hc : c = separator
    · simp [hc, (h separator).2 rfl]
    · rw [if_neg hc, if_neg fun hl => hc ((h c).1 hl)]
      cases splitOn separator cs <;> rfl

/-! ### Lower-case forms -/

theorem startsCased_toLower (cs : List Char) :
    startsCased (cs.map Char.toLower) = startsCased cs := by
  unfold startsCased
  rw [dropWhile_toLower isCaseIgnorable_toLower]
  cases cs.dropWhile isCaseIgnorable with
  | nil => rfl
  | cons c cs => exact isCased_toLower c

theorem lowerFrom_toLower (afterCased : Bool) (cs : List Char) :
    lowerFrom afterCased (cs.map Char.toLower) = lowerFrom afterCased cs := by
  induction cs generalizing afterCased with
  | nil => rfl
  | cons c cs ih =>
    rw [List.map_cons, lowerFrom, lowerFrom, startsCased_toLower, isCaseIgnorable_toLower,
      isCased_toLower, lowerChar_toLower]
    simp only [eq_capitalSigma_toLower, ih]

/-- **The lower-case form ignores letter case.** -/
theorem lower_toLower (cs : List Char) : lower (cs.map Char.toLower) = lower cs :=
  lowerFrom_toLower false cs

theorem SameLetters.lower_eq (h : SameLetters cs ds) : lower cs = lower ds := by
  rw [← lower_toLower cs, ← lower_toLower ds, h]

theorem SameLetters.trim (h : SameLetters cs ds) : SameLetters (trim cs) (trim ds) := by
  unfold SameLetters at *
  rw [← trim_toLower, ← trim_toLower, h]

/-- The lower-case form of a text in which only ASCII letters have another one. -/
theorem lowerFrom_of_letters (h : ∀ c ∈ cs, c ≠ capitalSigma ∧ lowerChar c = [c.toLower])
    (afterCased : Bool) : lowerFrom afterCased cs = cs.map Char.toLower := by
  induction cs generalizing afterCased with
  | nil => rfl
  | cons c cs ih =>
    obtain ⟨⟨hsigma, hlower⟩, hcs⟩ := List.forall_mem_cons.1 h
    rw [lowerFrom, if_neg hsigma, hlower, ih hcs, List.map_cons]
    rfl

theorem lower_of_letters (h : ∀ c ∈ cs, c ≠ capitalSigma ∧ lowerChar c = [c.toLower]) :
    lower cs = cs.map Char.toLower :=
  lowerFrom_of_letters h false

theorem lowerChar_of_ascii {c : Char} (h : c.toNat < 128) :
    c ≠ capitalSigma ∧ lowerChar c = [c.toLower] := by
  have hall : ∀ n ∈ List.range 128, Char.ofNat n ≠ capitalSigma ∧
      lowerChar (Char.ofNat n) = [(Char.ofNat n).toLower] := by decide +kernel
  exact forall_char_mem (P := fun c => c ≠ capitalSigma ∧ lowerChar c = [c.toLower]) hall
    (List.mem_range.2 h)

theorem lower_of_ascii (h : ∀ c ∈ cs, c.toNat < 128) : lower cs = cs.map Char.toLower :=
  lower_of_letters fun c hc => lowerChar_of_ascii (h c hc)

end MediaQuery.Text
