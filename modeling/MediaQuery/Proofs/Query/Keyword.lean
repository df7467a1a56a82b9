import MediaQuery.Proofs.Query.Grammar
import MediaQuery.Proofs.Text.Casing
import MediaQuery.Proofs.Text.LetterCase
import MediaQuery.Query.Clause
import Mathlib.Data.List.Basic

/-!
# Keywords

`keyword?` reads what the grammar calls a keyword. The characters that continue a keyword are
listed by `continuesHead` and `continuesAnd`, and are those that the caseless test takes for
characters of a word: `takenFor_headChar_iff` and `takenFor_andChar_iff` go through the rows of the
case table once, whatever the character.
-/

namespace MediaQuery.Grammar

open Text Query

/-! ### Upper-case forms -/

instance : DecidablePred LatinLetter := fun c => by unfold LatinLetter; infer_instance
instance : DecidablePred HeadChar := fun c => by unfold HeadChar; infer_instance
instance : DecidablePred AndChar := fun c => by unfold AndChar; infer_instance

/--
`forms` holds the upper-case forms of `chars`, and every character with such a form is in the
class: those of ASCII one by one, the others by the rows of the case table.
-/
structure CoversForms (chars : Char → Prop) (continues : Char → Bool) (forms : List Nat) :
    Prop where
  latin : ∀ c, chars c → c.toNat < 256
  forms_mem : ∀ n ∈ List.range 256, chars (Char.ofNat n) →
    ∀ u ∈ upperChar (Char.ofNat n), u.toNat ∈ forms
  ascii : ∀ n ∈ List.range 128, ∀ u ∈ upperChar (Char.ofNat n), u.toNat ∈ forms →
    continues (Char.ofNat n)
  self : (forms.all fun m => m != 0 && (m < 128 || continues (Char.ofNat m))) = true
  rows : (upperRows.all fun row => forms.all fun m =>
    let n := ((m : Int) - row.2.2.2).toNat
    !(row.1 ≤ n && n ≤ row.2.1 && (n - row.1) % row.2.2.1 == 0) || continues (Char.ofNat n)) = true

theorem length_ne_one_of_upperSequences : ∀ row ∈ upperSequences, row.2.length ≠ 1 := by decide

section Covers

variable {chars : Char → Prop} {continues : Char → Bool} {forms : List Nat}

/-- A character whose upper-case form is one of `forms` is in the class. -/
theorem CoversForms.continues_of_upperChar (hcov : CoversForms chars continues forms) {c u : Char}
    (hu : upperChar c = [u]) (hm : u.toNat ∈ forms) : continues c := by
  rcases Nat.lt_or_ge c.toNat 128 with hc | hc
  · exact forall_char_mem (P := fun c => ∀ u ∈ upperChar c, u.toNat ∈ forms → continues c)
      hcov.ascii (List.mem_range.2 hc) u (by rw [hu]; exact List.mem_singleton_self u) hm
  have hself : ∀ m ∈ forms, m ≠ 0 ∧ (m < 128 ∨ continues (Char.ofNat m)) := by
    simpa [List.all_eq_true] using hcov.self
  rw [upperChar_eq_caseForm hc] at hu
  rcases caseForm_cases upperSequences upperRows c.toNat with ⟨row, hrow, -, hform⟩ | hform
  · -- forms of several characters are never a single one
    have hlen := congrArg List.length (hform.symm.trans hu)
    rw [List.length_map] at hlen
    exact absurd hlen (length_ne_one_of_upperSequences row hrow)
  · obtain rfl := List.singleton_inj.1 (hform.symm.trans hu)
    have hrows : MapsFrom upperRows forms continues := hcov.rows
    refine (hrows.mem_or (fun hzero => (hself 0 hzero).1 rfl) hm).elim (fun hmem => ?_) id
    have hcontinues := (hself _ hmem).2.resolve_left (by omega)
    rwa [Char.ofNat_toNat] at hcontinues

theorem CoversForms.continues_of_takenFor (hcov : CoversForms chars continues forms) {c : Char}
    (h : TakenFor chars c) : continues c := by
  obtain ⟨k, hk, u, hu, hc⟩ := h
  exact hcov.continues_of_upperChar hc (forall_char_mem
    (P := fun k => chars k → ∀ u ∈ upperChar k, u.toNat ∈ forms) hcov.forms_mem
    (List.mem_range.2 (hcov.latin k hk)) hk u hu)

/--
The caseless test takes a character for one of `chars` iff it is in the class. The characters of
the class are among `codes`, and those that are not in `chars` themselves share their form with one
of `others`.
-/
theorem CoversForms.takenFor_iff (hcov : CoversForms chars continues forms) {codes : List Nat}
    (others : List Char) (hcodes : ∀ c, continues c → c.toNat ∈ codes)
    (hshared : ∀ n ∈ codes, continues (Char.ofNat n) → ∃ k ∈ Char.ofNat n :: others,
      chars k ∧ ∃ u ∈ upperChar k, upperChar (Char.ofNat n) = [u]) {c : Char} :
    TakenFor chars c ↔ continues c := by
  refine ⟨hcov.continues_of_takenFor, fun h => ?_⟩
  obtain ⟨k, -, hk⟩ := forall_char_mem (P := fun c => continues c → ∃ k ∈ c :: others,
    chars k ∧ ∃ u ∈ upperChar k, upperChar c = [u]) hshared (hcodes c h) h
  exact ⟨k, hk⟩

end Covers

/-! ### Characters that continue a keyword -/

/-- Upper-case forms of the characters that continue `not` and `only`. -/
def headForms : List Nat :=
  [0x2D, 0x5F, 0xAA, 0xBA, 0x178, 0x39C] ++ List.range' 0x41 26 ++ List.range' 0xC0 23 ++
    List.range' 0xD8 7

/-- Upper-case forms of the characters that continue `and`. -/
def andForms : List Nat := [0x24, 0x5F] ++ List.range' 0x30 10 ++ List.range' 0x41 26

theorem coversForms_head : CoversForms HeadChar continuesHead headForms where
  latin := by
    rintro c ((h | h | h) | rfl | rfl)
    · have := toNat_lt_of_isAsciiLetter h
      omega
    · simp only [List.mem_cons, List.not_mem_nil, or_false] at h
      omega
    · omega
    · decide
    · decide
  forms_mem := by decide +kernel
  ascii := by decide +kernel
  self := by decide +kernel
  rows := MapsFrom.of_reaching 0x39C (by decide) (by unfold MapsFrom; decide +kernel)

theorem coversForms_and : CoversForms AndChar continuesAnd andForms where
  latin := by
    rintro c (h | h | rfl | rfl)
    · have := toNat_lt_of_isAsciiLetter h
      omega
    · have := toNat_lt_of_isAsciiDigit h
      omega
    · decide
    · decide
  forms_mem := by decide +kernel
  ascii := by decide +kernel
  self := by decide +kernel
  rows := MapsFrom.of_reaching 0x5F (by decide) (by unfold MapsFrom; decide +kernel)

theorem takenFor_headChar_iff {c : Char} : TakenFor HeadChar c ↔ continuesHead c := by
  have hcodes : ∀ c, continuesHead c →
      c.toNat ∈ List.range 256 ++ [0x131, 0x178, 0x17F, 0x39C, 0x3BC] := by
    intro c h
    simp only [continuesHead, Bool.or_eq_true, Bool.and_eq_true, decide_eq_true_eq, beq_iff_eq,
      List.contains_iff_mem, List.mem_cons, List.not_mem_nil, or_false] at h
    simp only [List.mem_append, List.mem_range, List.mem_cons, List.not_mem_nil, or_false]
    rcases h with (((h | rfl) | rfl) | h) | h
    · have := toNat_lt_of_isAsciiLetter h
      omega
    · decide
    · decide
    · omega
    · omega
  exact coversForms_head.takenFor_iff ['I', 'S', 'ÿ', 'µ'] hcodes (by decide +kernel)

theorem takenFor_andChar_iff {c : Char} : TakenFor AndChar c ↔ continuesAnd c := by
  have hcodes : ∀ c, continuesAnd c → c.toNat ∈ List.range 128 ++ [0x131, 0x17F] := by
    intro c h
    simp only [continuesAnd, Bool.or_eq_true, beq_iff_eq] at h
    simp only [List.mem_append, List.mem_range, List.mem_cons, List.not_mem_nil, or_false]
    rcases h with ((((h | h) | rfl) | rfl) | h) | h
    · exact .inl (toNat_lt_of_isAsciiLetter h)
    · exact .inl (toNat_lt_of_isAsciiDigit h)
    · decide
    · decide
    · omega
    · omega
  exact coversForms_and.takenFor_iff ['I', 'S'] hcodes (by decide +kernel)

/-! ### Reading a keyword -/

section Reading

variable {cs rest : List Char}

/-- A lower-case letter in either case. -/
theorem toLower_eq_iff {p c : Char} (hp : 97 ≤ p.toNat ∧ p.toNat ≤ 122) :
    c.toLower = p ↔ c = p ∨ c = Char.ofNat (p.toNat - 32) := by
  have hmem : p.toNat ∈ List.range' 97 26 := by
    rw [List.mem_range'_1]
    omega
  constructor
  · rintro rfl
    exact toLower_induction (P := fun c => c = c.toLower ∨ c = Char.ofNat (c.toLower.toNat - 32))
      (fun c hc => .inl hc.symm) (by decide) c
  · rintro (rfl | rfl)
    · exact forall_char_mem (P := fun c => c.toLower = c) (by decide) hmem
    · exact forall_char_mem (P := fun p => (Char.ofNat (p.toNat - 32)).toLower = p) (by decide) hmem

theorem afterWord?_eq_some_iff {word : List Char}
    (hword : ∀ p ∈ word, 97 ≤ p.toNat ∧ p.toNat ≤ 122) :
    afterWord? word cs = some rest ↔ ∃ w, cs = w ++ rest ∧ w.map Char.toLower = word := by
  induction word generalizing cs with
  | nil => simp [afterWord?, eq_comm]
  | cons p ps ih =>
    cases cs with
    | nil => simp [afterWord?]
    | cons c cs =>
      have hp := toLower_eq_iff (c := c) (hword p List.mem_cons_self)
      have hps : ∀ q ∈ ps, 97 ≤ q.toNat ∧ q.toNat ≤ 122 :=
        fun q hq => hword q (List.mem_cons_of_mem p hq)
      rw [afterWord?]
      split_ifs with h
      · rw [ih hps]
        constructor
        · rintro ⟨w, rfl, hw⟩
          exact ⟨c :: w, rfl, by rw [List.map_cons, hp.2 h, hw]⟩
        · rintro ⟨w, hcs, hw⟩
          cases w with
          | nil => simp at hw
          | cons d w =>
            obtain ⟨rfl, rfl⟩ : c = d ∧ cs = w ++ rest := by simpa using hcs
            exact ⟨w, rfl, (List.cons.inj hw).2⟩
      · constructor
        · intro h'
          cases h'
        rintro ⟨w, hcs, hw⟩
        cases w with
        | nil => simp at hw
        | cons d w =>
          obtain ⟨rfl, -⟩ : c = d ∧ cs = w ++ rest := by simpa using hcs
          exact absurd (hp.1 (List.cons.inj hw).1) h

/-- Reading a keyword, for a word of lower-case letters and the characters that continue it. -/
theorem keyword?_eq_some_iff {word : String} {chars : Char → Prop} {continues : Char → Bool}
    (hword : ∀ p ∈ word.toList, 97 ≤ p.toNat ∧ p.toNat ≤ 122)
    (hchars : ∀ c, TakenFor chars c ↔ continues c) :
    keyword? word continues cs = some rest ↔ Keyword word chars cs rest := by
  have hw : ∀ r, afterWord? word.toList cs = some r ↔
      ∃ w, cs = w ++ r ∧ w.map Char.toLower = word.toList := fun r => afterWord?_eq_some_iff hword
  constructor
  · intro h
    unfold keyword? at h
    split at h
    · rename_i c r hr
      split_ifs at h with hc
      cases h
      obtain ⟨w, hcs, hw⟩ := (hw _).1 hr
      refine ⟨w, hcs, hw, fun d hd => ?_⟩
      obtain rfl : c = d := by simpa using hd
      rwa [hchars]
    · rename_i hne
      obtain ⟨w, hcs, hw⟩ := (hw _).1 h
      refine ⟨w, hcs, hw, fun d hd => ?_⟩
      cases rest with
      | nil => cases hd
      | cons c r => exact absurd h (hne c r)
  · rintro ⟨w, hcs, hmap, hrest⟩
    have hr := (hw rest).2 ⟨w, hcs, hmap⟩
    unfold keyword?
    rw [hr]
    cases rest with
    | nil => rfl
    | cons c r =>
      have hc := hrest c rfl
      rw [hchars] at hc
      exact if_neg hc

end Reading

end MediaQuery.Grammar
